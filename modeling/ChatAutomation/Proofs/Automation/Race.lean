import ChatAutomation.Proofs.Automation.Steps

/-!
# Two saves at once

`Race.run` takes the steps of two saves of one id in any order, and `Race.Serialised` says that they end
as if one had come after the other. If both read before either writes, one of two new flows is refused,
and an update of a stored flow writes the texts that it was not given as it has read them, over those
that the other has just written. `Race.serialised_iff` says when that does no harm.
-/
namespace ChatAutomation

/-! ## When an overlap does no harm -/

namespace FlowUpdate

/-- The texts that the later update is not given are left by the earlier one as they are stored. -/
structure Covers (later earlier : FlowUpdate) (f : Flow) : Prop where
  name : later.name.getD "" = "" → givenOr earlier.name f.name = f.name
  description : later.description = none → earlier.description.getD f.description = f.description
  triggerType : later.triggerType.getD "" = "" →
    givenOr earlier.triggerType f.triggerType = f.triggerType
  triggerValue : later.triggerValue = none →
    earlier.triggerValue.getD f.triggerValue = f.triggerValue

/-- Merged into the flow, the update writes what is there. -/
def AddsNothing (u : FlowUpdate) (f : Flow) : Prop := ∀ now, (u.merge now f).changes = f.changes

theorem givenOr_eq_ite (s : Option String) (x : String) :
    givenOr s x = if s.getD "" = "" then x else s.getD "" := by
  cases s with
  | none => rfl
  | some s => by_cases h : s = "" <;> simp [givenOr, h]

theorem givenOr_givenOr_iff (s s' : Option String) (x : String) :
    givenOr s x = givenOr s (givenOr s' x) ↔ (s.getD "" = "" → givenOr s' x = x) := by
  rw [givenOr_eq_ite s x, givenOr_eq_ite s]
  by_cases h : s.getD "" = ""
  · simp only [h, if_true, forall_const]
    exact eq_comm
  · simp [h]

theorem getD_getD_iff {α : Type} (s s' : Option α) (x : α) :
    s.getD x = s.getD (s'.getD x) ↔ (s = none → s'.getD x = x) := by
  cases s with
  | none => simp [eq_comm]
  | some s => simp

theorem changes_merge_merge_iff (u v : FlowUpdate) (f : Flow) (now : Timestamp) :
    (v.merge now f).changes = (v.merge now (u.merge now f)).changes ↔ v.Covers u f := by
  have hiff : (v.merge now f).changes = (v.merge now (u.merge now f)).changes ↔
      givenOr v.name f.name = givenOr v.name (givenOr u.name f.name) ∧
      v.description.getD f.description = v.description.getD (u.description.getD f.description) ∧
      givenOr v.triggerType f.triggerType =
        givenOr v.triggerType (givenOr u.triggerType f.triggerType) ∧
      v.triggerValue.getD f.triggerValue =
        v.triggerValue.getD (u.triggerValue.getD f.triggerValue) := by
    simp [Flow.changes_eq, merge, Flow.nodeDocuments, Flow.edgeDocuments]
  rw [hiff, givenOr_givenOr_iff, getD_getD_iff, givenOr_givenOr_iff, getD_getD_iff]
  constructor
  · rintro ⟨hname, hdescription, htype, hvalue⟩
    exact ⟨hname, hdescription, htype, hvalue⟩
  · intro h
    exact ⟨h.name, h.description, h.triggerType, h.triggerValue⟩

theorem addsNothing_iff (u : FlowUpdate) (f : Flow) (now : Timestamp) :
    u.AddsNothing f ↔ (u.merge now f).changes = f.changes :=
  ⟨fun h => h now, fun h later => (u.changes_merge_dated f now later _ _).trans h⟩

end FlowUpdate

/-! ## Saves step by step -/

/-- How far a save has come. -/
inductive Saving where
  | unread (u : FlowUpdate)
  | planned (w : Write)
  | done (saved : Option Flow)
  | failed (fault : Fault)

namespace Saving

/-- The next step of a save. -/
def step (t : Timestamp) (s : Store) : Saving → Saving × Store
  | unread u =>
    match s.get t u.id with
    | .ok stored => (planned (Write.plan t u stored), s)
    | .error fault => (failed fault, s)
  | planned w =>
    match w.apply t s with
    | .ok (saved, s') => (done saved, s')
    | .error fault => (failed fault, s)
  | done saved => (done saved, s)
  | failed fault => (failed fault, s)

/-- Two steps with nothing in between are a save. -/
theorem step_step (t : Timestamp) (u : FlowUpdate) (s : Store) :
    ((unread u).step t s).1.step t ((unread u).step t s).2 =
      match Automation.save t u s with
      | .ok (saved, s') => (done saved, s')
      | .error fault => (failed fault, s) := by
  cases hget : s.get t u.id with
  | ok stored =>
    rw [Automation.save_of_get hget]
    simp only [step, hget]
  | error fault =>
    simp only [step, Automation.save, hget]
    rfl

end Saving

/-- Who saves. -/
inductive Caller where
  | first
  | second
  deriving DecidableEq

def Caller.other : Caller → Caller
  | first => second
  | second => first

@[simp] theorem Caller.other_ne (c : Caller) : c.other ≠ c := by
  cases c <;> simp [other]

@[simp] theorem Caller.ne_other (c : Caller) : c ≠ c.other := c.other_ne.symm

@[simp] theorem Caller.other_other (c : Caller) : c.other.other = c := by
  cases c <;> rfl

theorem Caller.eq_or_other_eq (c c' : Caller) : c = c' ∨ c.other = c' := by
  cases c <;> cases c' <;> simp [other]

/-- Two saves and the store that they work on. -/
structure Race where
  savings : Caller → Saving
  store : Store

namespace Race

def start (u : Caller → FlowUpdate) (s : Store) : Race := ⟨fun c => .unread (u c), s⟩

def step (r : Race) (turn : Caller × Timestamp) : Race :=
  let next := (r.savings turn.1).step turn.2 r.store
  ⟨Function.update r.savings turn.1 next.1, next.2⟩

/-- The steps of the callers in an order, each at its time. -/
def run (turns : List (Caller × Timestamp)) (r : Race) : Race := turns.foldl step r

theorem run_append (turns turns' : List (Caller × Timestamp)) (r : Race) :
    run (turns ++ turns') r = run turns' (run turns r) := List.foldl_append

/-- Each caller has the two turns that a save takes. -/
def Interleaved (turns : List (Caller × Timestamp)) : Prop :=
  (turns.map Prod.fst).Perm [.first, .first, .second, .second]

instance (turns : List (Caller × Timestamp)) : Decidable (Interleaved turns) :=
  inferInstanceAs (Decidable (List.Perm _ _))

/-- One caller has both turns before the other. -/
def Serial (turns : List (Caller × Timestamp)) : Prop :=
  ∃ c : Caller, turns.map Prod.fst = [c, c, c.other, c.other]

/-- A save, and another behind it, leave a document under an id. -/
def LeftBy (now : Timestamp) (u v : FlowUpdate) (s : Store) (d : Document) : Prop :=
  ∃ saved s₁ saved' s₂, Automation.save now u s = .ok (saved, s₁) ∧
    Automation.save now v s₁ = .ok (saved', s₂) ∧ s₂.document? v.id = some d

/-- Both saves succeed, and the document under their id is what they leave one behind the other, up to
its dates. -/
structure Serialised (now : Timestamp) (u : Caller → FlowUpdate) (s : Store) (r : Race) : Prop where
  finished : ∀ c, ∃ saved, r.savings c = .done saved
  left : ∃ c d d', r.store.document? (u c).id = some d ∧
    LeftBy now (u c) (u c.other) s d' ∧ d.AgreeUndated d'

/-- One caller, and then the other. -/
def inTurn (c : Caller) (t₁ t₂ t₃ t₄ : Timestamp) : List (Caller × Timestamp) :=
  [(c, t₁), (c, t₂)] ++ [(c.other, t₃), (c.other, t₄)]

/-- Both read, and then both write. -/
def overlapped (r w : Caller) (t₁ t₂ t₃ t₄ : Timestamp) : List (Caller × Timestamp) :=
  [(r, t₁), (r.other, t₂)] ++ [(w, t₃), (w.other, t₄)]

/-- There are no other orders. -/
theorem Interleaved.cases {turns : List (Caller × Timestamp)} (h : Interleaved turns) :
    (∃ c t₁ t₂ t₃ t₄, turns = inTurn c t₁ t₂ t₃ t₄) ∨
      ∃ r w t₁ t₂ t₃ t₄, turns = overlapped r w t₁ t₂ t₃ t₄ := by
  have hlength : turns.length = 4 := by simpa using h.length_eq
  match turns, hlength with
  | [(c₁, t₁), (c₂, t₂), (c₃, t₃), (c₄, t₄)], _ =>
    have hcount : [c₁, c₂, c₃, c₄].count c₁ = 2 := by
      have hc := h.count_eq c₁
      cases c₁ <;> exact hc
    -- the second turn decides: it is the other one's only if both read first
    rcases c₁.eq_or_other_eq c₂ with rfl | rfl
    · left
      refine ⟨c₁, t₁, t₂, t₃, t₄, ?_⟩
      rcases c₁.eq_or_other_eq c₃ with rfl | rfl <;> rcases c₁.eq_or_other_eq c₄ with rfl | rfl <;>
        simp [inTurn] at hcount ⊢
    · right
      refine ⟨c₁, c₃, t₁, t₂, t₃, t₄, ?_⟩
      rcases c₁.eq_or_other_eq c₃ with rfl | rfl <;> rcases c₁.eq_or_other_eq c₄ with rfl | rfl <;>
        simp [overlapped] at hcount ⊢

theorem not_serial_overlapped (r w : Caller) (t₁ t₂ t₃ t₄ : Timestamp) :
    ¬ Serial (overlapped r w t₁ t₂ t₃ t₄) := by
  rintro ⟨c, hc⟩
  simp only [overlapped, List.cons_append, List.map_cons, List.cons.injEq] at hc
  exact r.other_ne (hc.2.1.trans hc.1.symm)

/-! ## What the steps do -/

variable {u : Caller → FlowUpdate} {s : Store}

theorem step_unread {r : Race} {c : Caller} {v : FlowUpdate} (hr : r.savings c = .unread v)
    (hreached : r.store.failure = none) (t : Timestamp) :
    r.step (c, t) = ⟨Function.update r.savings c (.planned (v.planIn t r.store)), r.store⟩ := by
  simp only [step, hr, Saving.step, Store.get_of_reached hreached, FlowUpdate.planIn]

theorem step_planned {r : Race} {c : Caller} {w : Write} {t : Timestamp} {saved : Option Flow}
    {s' : Store} (hr : r.savings c = .planned w) (happly : w.apply t r.store = .ok (saved, s')) :
    r.step (c, t) = ⟨Function.update r.savings c (.done saved), s'⟩ := by
  simp only [step, hr, Saving.step, happly]

theorem step_planned_error {r : Race} {c : Caller} {w : Write} {t : Timestamp} {fault : Fault}
    (hr : r.savings c = .planned w) (happly : w.apply t r.store = .error fault) :
    r.step (c, t) = ⟨Function.update r.savings c (.failed fault), r.store⟩ := by
  simp only [step, hr, Saving.step, happly]

/-- Two turns of one caller. -/
theorem run_both {savings : Caller → Saving} {c : Caller} {v : FlowUpdate} {t t' : Timestamp}
    {saved : Option Flow} {s' : Store} (hc : savings c = .unread v) (hreached : s.failure = none)
    (happly : (v.planIn t s).apply t' s = .ok (saved, s')) :
    run [(c, t), (c, t')] ⟨savings, s⟩ = ⟨Function.update savings c (.done saved), s'⟩ := by
  have hfirst := step_unread (r := ⟨savings, s⟩) hc hreached t
  have hsecond := step_planned (r := ⟨Function.update savings c (.planned (v.planIn t s)), s⟩)
    (Function.update_self c _ _) happly
  rw [run, List.foldl_cons, hfirst, List.foldl_cons, hsecond, List.foldl_nil, Function.update_idem]

/-- A first turn of each caller. -/
theorem run_reads (hreached : s.failure = none) (r : Caller) (t t' : Timestamp) :
    ∃ τ : Caller → Timestamp, run [(r, t), (r.other, t')] (start u s) =
      ⟨fun c => .planned ((u c).planIn (τ c) s), s⟩ := by
  refine ⟨fun c => if c = r then t else t', ?_⟩
  rw [run, List.foldl_cons, step_unread rfl hreached, List.foldl_cons,
    step_unread (v := u r.other) (by simp [start]) hreached, List.foldl_nil]
  congr 1
  funext c
  rcases r.eq_or_other_eq c with rfl | rfl <;> simp [start]

theorem LeftBy.unique {now : Timestamp} {v v' : FlowUpdate} {d d' : Document}
    (h : LeftBy now v v' s d) (h' : LeftBy now v v' s d') : d = d' := by
  obtain ⟨_, s₁, _, s₂, hfirst, hsecond, hd⟩ := h
  obtain ⟨_, _, _, _, hfirst', hsecond', hd'⟩ := h'
  rw [hfirst] at hfirst'
  cases hfirst'
  rw [hsecond] at hsecond'
  cases hsecond'
  rw [hd] at hd'
  exact Option.some.inj hd'

variable {id : String}

theorem leftBy_of_leaves {v v' : FlowUpdate} {d : Document} {f : Flow} (h : s.Leaves v d f)
    (hreached : s.failure = none) (hv' : v'.Proper) (hid : v'.id = v.id) (now : Timestamp) :
    ∃ d', LeftBy now v v' s d' ∧ d'.AgreeUndated ((v'.merge now f).written now d) := by
  obtain ⟨saved, s₁, saved', s₂, d', happly, hreached₁, happly', hfound, hd'⟩ :=
    h.andThen hv' hid now now now now now
  refine ⟨d', ⟨saved, s₁, saved', s₂, ?_, ?_, hfound⟩, hd'⟩
  · rw [Automation.save_of_reached hreached, happly]
  · rw [Automation.save_of_reached hreached₁, happly']

/-- One caller before the other. -/
theorem serialised_of_serial (hu : ∀ c, (u c).Proper) (hid : ∀ c, (u c).id = id)
    (hs : s.Healthy) (c : Caller) (now t₁ t₂ t₃ t₄ : Timestamp) :
    Serialised now u s (run (inTurn c t₁ t₂ t₃ t₄) (start u s)) := by
  have hids : (u c.other).id = (u c).id := (hid _).trans (hid c).symm
  obtain ⟨d, f, hleaves⟩ := hs.leaves (hu c) now
  obtain ⟨saved, s₁, saved', s₂, d₂, happly, hreached, happly', hfound, hd₂⟩ :=
    hleaves.andThen (hu c.other) hids now t₁ t₂ t₃ t₄
  obtain ⟨d', hleft, hd'⟩ := leftBy_of_leaves hleaves hs.reached (hu c.other) hids now
  have hrun : run (inTurn c t₁ t₂ t₃ t₄) (start u s) =
      ⟨Function.update (Function.update (fun c => .unread (u c)) c (.done saved)) c.other
        (.done saved'), s₂⟩ := by
    have hfirst : run [(c, t₁), (c, t₂)] (start u s) = _ := run_both rfl hs.reached happly
    rw [inTurn, run_append, hfirst]
    exact run_both (by simp) hreached happly'
  rw [hrun]
  refine ⟨fun c' => ?_, c, d₂, d', hids ▸ hfound, hleft, hd₂.trans hd'.symm⟩
  rcases c.eq_or_other_eq c' with rfl | rfl
  · exact ⟨saved, by simp⟩
  · exact ⟨saved', by simp⟩

/-- Both read before either writes. -/
theorem run_overlapped {plan : Caller → Timestamp → Write} (hreached : s.failure = none)
    (hplan : ∀ c t, (u c).planIn t s = plan c t) (r w : Caller) (t₁ t₂ t₃ t₄ : Timestamp) :
    ∃ (savings : Caller → Saving) (τ : Caller → Timestamp),
      (∀ c, savings c = .planned (plan c (τ c))) ∧
      run (overlapped r w t₁ t₂ t₃ t₄) (start u s) =
        step (step ⟨savings, s⟩ (w, t₃)) (w.other, t₄) := by
  obtain ⟨τ, hreads⟩ := run_reads (u := u) hreached r t₁ t₂
  refine ⟨_, τ, fun c => congrArg _ (hplan c (τ c)), ?_⟩
  rw [overlapped, run_append, hreads]
  rfl

/-- If both read a stored flow, then what the last one writes is left. -/
theorem run_overlapped_of_holds (hu : ∀ c, (u c).Proper) (hid : ∀ c, (u c).id = id) {d : Document}
    {f : Flow} (h : s.Holds id d f) (r w : Caller) (now t₁ t₂ t₃ t₄ : Timestamp) :
    ∃ savings s', run (overlapped r w t₁ t₂ t₃ t₄) (start u s) = ⟨savings, s'⟩ ∧
      (∀ c, ∃ saved, savings c = .done saved) ∧
      ∃ d', s'.document? id = some d' ∧
        d'.AgreeUndated (((u w.other).merge now f).written now d) := by
  have hmerge (c : Caller) : ((u c).merge now f).Proper := FlowUpdate.proper_merge (hu c) now f
  obtain ⟨saved, s₁, happly, hs₁⟩ := h.update (hmerge w) h.id_eq t₃
  obtain ⟨saved', s₂, happly', hs₂⟩ := hs₁.update (hmerge w.other) h.id_eq t₄
  obtain ⟨savings, _, hplanned, hrun⟩ :=
    run_overlapped h.reached (fun c t => h.planIn (hid c) now t) r w t₁ t₂ t₃ t₄
  have hfirst := step_planned (r := ⟨savings, s⟩) (hplanned w) happly
  rw [hfirst, step_planned (by simp [hplanned]) happly'] at hrun
  refine ⟨_, s₂, hrun, fun c => ?_, _, hs₂.found, ?_⟩
  · rcases w.eq_or_other_eq c with rfl | rfl
    · exact ⟨saved, by simp⟩
    · exact ⟨saved', by simp⟩
  · exact (Document.agreeUndated_written_written _ _ d t₄ t₃).trans
      (.written (fun _ _ _ => rfl) rfl t₄ now)

/-- If both find nothing, then the last one is refused. -/
theorem run_overlapped_of_lacks (hu : ∀ c, (u c).Proper) (hid : ∀ c, (u c).id = id)
    (h : s.Lacks id) (r w : Caller) (t₁ t₂ t₃ t₄ : Timestamp) :
    (run (overlapped r w t₁ t₂ t₃ t₄) (start u s)).savings w.other =
      .failed .duplicateKey := by
  obtain ⟨savings, τ, hplanned, hrun⟩ :=
    run_overlapped h.reached (fun c t => h.planIn (hid c) t) r w t₁ t₂ t₃ t₄
  obtain ⟨s₁, happly, hs₁⟩ :=
    h.insert (FlowUpdate.proper_create (hu w) (τ w)) (hid w) t₃
  have hrefused := hs₁.insert_refused (g := (u w.other).create (τ w.other)) (hid w.other) t₄
  have hfirst := step_planned (r := ⟨savings, s⟩) (hplanned w) happly
  rw [hrun, hfirst, step_planned_error (by simp [hplanned]) hrefused]
  exact Function.update_self _ _ _

theorem not_serialised_of_lacks (hu : ∀ c, (u c).Proper) (hid : ∀ c, (u c).id = id)
    (h : s.Lacks id) (r w : Caller) (now t₁ t₂ t₃ t₄ : Timestamp) :
    ¬ Serialised now u s (run (overlapped r w t₁ t₂ t₃ t₄) (start u s)) := by
  intro hserialised
  obtain ⟨saved, hsaved⟩ := hserialised.finished w.other
  rw [run_overlapped_of_lacks hu hid h r w t₁ t₂ t₃ t₄] at hsaved
  cases hsaved

/-- Two saves of a stored flow, one behind the other, leave the flow that both are merged into. -/
theorem leftBy_of_holds {v v' : FlowUpdate} (hv : v.Proper) (hv' : v'.Proper) (hid : v.id = id)
    (hid' : v'.id = id) {d : Document} {f : Flow} (h : s.Holds id d f) (now : Timestamp) :
    ∃ d', LeftBy now v v' s d' ∧
      d'.AgreeUndated ((v'.merge now (v.merge now f)).written now d) := by
  obtain ⟨d', hleft, hd'⟩ :=
    leftBy_of_leaves (h.leaves hv hid now) h.reached hv' (hid'.trans hid.symm) now
  exact ⟨d', hleft, hd'.trans (Document.agreeUndated_written_written _ _ d now now)⟩

/-- The saves of a stored flow that both read before either writes. -/
theorem serialised_overlapped_iff (hu : ∀ c, (u c).Proper) (hid : ∀ c, (u c).id = id)
    {d : Document} {f : Flow} (h : s.Holds id d f) (r w : Caller) (now t₁ t₂ t₃ t₄ : Timestamp) :
    Serialised now u s (run (overlapped r w t₁ t₂ t₃ t₄) (start u s)) ↔
      (u w.other).Covers (u w) f ∨ (u w).AddsNothing ((u w.other).merge now f) := by
  obtain ⟨savings, s', hrun, hdone, d', hfound, hd'⟩ :=
    run_overlapped_of_holds hu hid h r w now t₁ t₂ t₃ t₄
  obtain ⟨dw, hleft, hdw⟩ := leftBy_of_holds (hu w) (hu w.other) (hid w) (hid w.other) h now
  obtain ⟨dw', hleft', hdw'⟩ := leftBy_of_holds (hu w.other) (hu w) (hid w.other) (hid w) h now
  have hagree : d'.AgreeUndated dw ↔ (u w.other).Covers (u w) f := by
    rw [← FlowUpdate.changes_merge_merge_iff _ _ f now, ← Document.agreeUndated_written_iff]
    exact ⟨fun h => hd'.symm.trans (h.trans hdw), fun h => hd'.trans (h.trans hdw.symm)⟩
  have hagree' : d'.AgreeUndated dw' ↔ (u w).AddsNothing ((u w.other).merge now f) := by
    rw [FlowUpdate.addsNothing_iff _ _ now, eq_comm, ← Document.agreeUndated_written_iff]
    exact ⟨fun h => hd'.symm.trans (h.trans hdw'), fun h => hd'.trans (h.trans hdw'.symm)⟩
  rw [hrun, ← hagree, ← hagree']
  constructor
  · rintro ⟨-, c, e, e', he, hlefte, hee'⟩
    rw [hid, hfound, Option.some.injEq] at he
    subst he
    rcases w.eq_or_other_eq c with rfl | rfl
    · exact .inl (hleft.unique hlefte ▸ hee')
    · rw [Caller.other_other] at hlefte
      exact .inr (hleft'.unique hlefte ▸ hee')
  · rintro (hsame | hsame)
    · exact ⟨hdone, w, d', dw, by rw [hid]; exact hfound, hleft, hsame⟩
    · exact ⟨hdone, w.other, d', dw', by rw [hid]; exact hfound,
        by rw [Caller.other_other]; exact hleft', hsame⟩

/-- Two saves of one id end as if one had come after the other exactly if one does come after the
other, or if they are saves of a stored flow and the one that writes last covers the other one, or the
other one would add nothing to it. -/
theorem serialised_iff (sent : ∀ c, ∃ v, FlowUpdate.read v = .ok (u c))
    (hid : ∀ c, (u c).id = id) (hs : s.Healthy) {turns : List (Caller × Timestamp)}
    (hturns : Interleaved turns) (now : Timestamp) :
    Serialised now u s (run turns (start u s)) ↔
      Serial turns ∨ ∃ f c, s.get now id = .ok (some f) ∧
        (turns.map Prod.fst).getLast? = some c ∧
        ((u c).Covers (u c.other) f ∨ (u c.other).AddsNothing ((u c).merge now f)) := by
  have hu (c : Caller) : (u c).Proper := by
    obtain ⟨v, hv⟩ := sent c
    exact FlowUpdate.proper_of_read hv
  rcases hturns.cases with ⟨c, t₁, t₂, t₃, t₄, rfl⟩ | ⟨r, w, t₁, t₂, t₃, t₄, rfl⟩
  · exact iff_of_true (serialised_of_serial hu hid hs c now t₁ t₂ t₃ t₄) (.inl ⟨c, rfl⟩)
  · have hnot := not_serial_overlapped r w t₁ t₂ t₃ t₄
    rcases hs.lacks_or_holds id now with hlacks | ⟨d, f, hholds, hget⟩
    · refine iff_of_false (not_serialised_of_lacks hu hid hlacks r w now t₁ t₂ t₃ t₄) ?_
      rintro (hserial | ⟨f, c, hf, -⟩)
      · exact hnot hserial
      · rw [Store.get_of_reached hlacks.reached, hlacks.absent] at hf
        cases hf
    · rw [serialised_overlapped_iff hu hid hholds r w now t₁ t₂ t₃ t₄]
      constructor
      · intro h
        exact .inr ⟨f, w.other, hget, rfl, by rwa [Caller.other_other]⟩
      · rintro (hserial | ⟨g, c, hg, hc, h⟩)
        · exact absurd hserial hnot
        · obtain rfl : f = g := by
            rw [hget] at hg
            simpa using hg
          obtain rfl : w.other = c := Option.some.inj hc
          rwa [Caller.other_other] at h

/-- One gives the flow a name, the other one a description. -/
def halves : Caller → FlowUpdate
  | .first => ⟨"f1", some "Oi", none, none, none, none, none, none⟩
  | .second => ⟨"f1", none, some "Olá", none, none, none, none, none⟩

/-- One gives the flow a name, the other one all its texts. -/
def renamedTwice : Caller → FlowUpdate
  | .first => ⟨"f1", some "Oi", none, none, none, none, none, none⟩
  | .second => ⟨"f1", some "Olá", some "", none, none, some "keyword", some "oi", none⟩

/-- Both read the flow, then the first and then the second writes it. -/
def readsFirst : List (Caller × Timestamp) :=
  overlapped .second .first ⟨1, none⟩ ⟨2, none⟩ ⟨3, none⟩ ⟨4, none⟩

theorem holds_shelf : Automation.shelf.Holds "f1" Automation.greeting.document Automation.greeting :=
  ⟨rfl, rfl, rfl, fun _ => ⟨_, _, rfl⟩⟩

theorem healthy_shelf : Automation.shelf.Healthy := by
  refine ⟨rfl, rfl, fun d hd => ?_⟩
  obtain rfl := List.mem_singleton.1 hd
  exact ⟨⟨0, none⟩, Automation.greeting, rfl⟩

theorem serialised_renamedTwice :
    (∀ c, ∃ v, FlowUpdate.read v = .ok (renamedTwice c)) ∧ (∀ c, (renamedTwice c).id = "f1") ∧
      Automation.shelf.Healthy ∧ Interleaved readsFirst ∧
      Serialised ⟨5, none⟩ renamedTwice Automation.shelf
        (run readsFirst (start renamedTwice Automation.shelf)) := by
  have hsent : ∀ c, ∃ v, FlowUpdate.read v = .ok (renamedTwice c) := by
    rintro (_ | _)
    · exact ⟨.object [("id", .text "f1"), ("name", .text "Oi")], rfl⟩
    · exact ⟨.object [("id", .text "f1"), ("name", .text "Olá"), ("description", .text ""),
        ("trigger_type", .text "keyword"), ("trigger_value", .text "oi")], rfl⟩
  have hid : ∀ c, (renamedTwice c).id = "f1" := by
    rintro (_ | _) <;> rfl
  have hturns : Interleaved readsFirst := by decide
  have hcovers : (renamedTwice .second).Covers (renamedTwice .first) Automation.greeting := by
    constructor <;> decide
  have hiff := serialised_iff hsent hid healthy_shelf hturns ⟨5, none⟩
  exact ⟨hsent, hid, healthy_shelf, hturns,
    hiff.2 (.inr ⟨Automation.greeting, .second, rfl, rfl, .inl hcovers⟩)⟩

/-- The name that the first gives is lost, as the second writes the one that it has read. -/
theorem name_lost_by_overlap :
    (∀ c, ∃ v, FlowUpdate.read v = .ok (halves c)) ∧ (∀ c, (halves c).id = "f1") ∧
      Automation.shelf.Healthy ∧ Interleaved readsFirst ∧
      ¬ Serialised ⟨5, none⟩ halves Automation.shelf
        (run readsFirst (start halves Automation.shelf)) := by
  have hid : ∀ c, (halves c).id = "f1" := by
    rintro (_ | _) <;> rfl
  have hsent : ∀ c, ∃ v, FlowUpdate.read v = .ok (halves c) := by
    rintro (_ | _)
    · exact ⟨.object [("id", .text "f1"), ("name", .text "Oi")], rfl⟩
    · exact ⟨.object [("id", .text "f1"), ("description", .text "Olá")], rfl⟩
  have hproper : ∀ c, (halves c).Proper := by
    intro c
    obtain ⟨v, hv⟩ := hsent c
    exact FlowUpdate.proper_of_read hv
  refine ⟨hsent, hid, healthy_shelf, by decide, fun h => ?_⟩
  have hiff := serialised_overlapped_iff hproper hid holds_shelf .second .first ⟨5, none⟩ ⟨1, none⟩
    ⟨2, none⟩ ⟨3, none⟩ ⟨4, none⟩
  rcases hiff.1 h with hcovers | hnothing
  · exact absurd (hcovers.name rfl) (by decide)
  · have hname := congrArg (Entries.get? · "name") (hnothing ⟨5, none⟩)
    simp [Flow.changes_eq, FlowUpdate.merge, halves, Automation.greeting, FlowUpdate.givenOr,
      Entries.get?_cons, Caller.other] at hname

end Race
end ChatAutomation
