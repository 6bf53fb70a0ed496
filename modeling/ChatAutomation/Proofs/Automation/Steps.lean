import ChatAutomation.Proofs.Automation.Merge

/-!
# The two steps of a save

A save reads the flow under its id, `FlowUpdate.planIn`, and then writes what it makes of that. Here the
two steps may be taken at different times. `Store.Holds` and `Store.Lacks` say what the first step may
find, and `Store.Leaves` what the second one leaves: dates aside, the times make no difference. A save of
a stored flow leaves the merge, a save under a free id a new flow, and a second save merges into what the
first one has left, `Store.Leaves.andThen`.
-/
namespace ChatAutomation

/-! ## Documents up to their dates -/

theorem Entries.eq_of_get?_eq {α : Type} {es fs : Entries α} (hkeys : es.keys = fs.keys)
    (hnodup : es.keys.Nodup) (hget : ∀ k ∈ es.keys, es.get? k = fs.get? k) : es = fs := by
  induction es generalizing fs with
  | nil =>
    cases fs with
    | nil => rfl
    | cons x fs => cases hkeys
  | cons x es ih =>
    cases fs with
    | nil => cases hkeys
    | cons y fs =>
      obtain ⟨k, v⟩ := x
      obtain ⟨k', w⟩ := y
      rw [Entries.keys_cons, Entries.keys_cons, List.cons.injEq] at hkeys
      obtain ⟨rfl, hkeys⟩ := hkeys
      rw [Entries.keys_cons, List.nodup_cons] at hnodup
      have hhead := hget k (by simp)
      simp only [Entries.get?_cons, if_true, Option.some.injEq] at hhead
      have htail : es = fs := by
        refine ih hkeys hnodup.2 fun j hj => ?_
        have hj' := hget j (List.mem_cons_of_mem k hj)
        have hne : j ≠ k := fun h => hnodup.1 (h ▸ hj)
        rwa [Entries.get?_cons, Entries.get?_cons, if_neg hne, if_neg hne] at hj'
      rw [hhead, htail]

namespace Document

/-- The documents have the same fields, dates aside. -/
def AgreeUndated (d e : Document) : Prop :=
  ∀ k, k ≠ "created_at" → k ≠ "updated_at" → d.get? k = e.get? k

variable {d e : Document} {g h : Flow}

theorem AgreeUndated.symm (hde : d.AgreeUndated e) : e.AgreeUndated d :=
  fun k hc hu => (hde k hc hu).symm

theorem AgreeUndated.trans {d' : Document} (hde : d.AgreeUndated e) (hed' : e.AgreeUndated d') :
    d.AgreeUndated d' := fun k hc hu => (hde k hc hu).trans (hed' k hc hu)

theorem AgreeUndated.written (hde : d.AgreeUndated e) (hgh : g.changes = h.changes)
    (t t' : Timestamp) : (g.written t d).AgreeUndated (h.written t' e) := by
  intro k hc hu
  rw [Flow.get?_written, Flow.get?_written, if_neg hu, if_neg hu, hgh, hde k hc hu]

/-- What is written last covers what was written before. -/
theorem agreeUndated_written_written (g h : Flow) (d : Document) (t t' : Timestamp) :
    (g.written t (h.written t' d)).AgreeUndated (g.written t d) := by
  intro k _ hu
  simp only [Flow.get?_written, if_neg hu]
  cases hg : g.changes.get? k with
  | some v => rfl
  | none =>
    have hkey : k ∉ h.changes.keys := by
      rw [Flow.keys_changes, ← Flow.keys_changes g]
      exact Entries.get?_eq_none_iff.1 hg
    rw [Entries.get?_eq_none_iff.2 hkey, Option.none_or]

theorem agreeUndated_written_iff {t t' : Timestamp} :
    (g.written t d).AgreeUndated (h.written t' d) ↔ g.changes = h.changes := by
  constructor
  · intro hagree
    have hkeys : g.changes.keys = h.changes.keys := by rw [Flow.keys_changes, Flow.keys_changes]
    refine Entries.eq_of_get?_eq hkeys (by rw [Flow.keys_changes]; decide) fun k hk => ?_
    have hne : k ≠ "created_at" ∧ k ≠ "updated_at" := by
      rw [Flow.keys_changes] at hk
      constructor <;> rintro rfl <;> simp at hk
    obtain ⟨v, hv⟩ := Option.isSome_iff_exists.1 (Entries.has_iff.2 hk)
    obtain ⟨w, hw⟩ := Option.isSome_iff_exists.1 (Entries.has_iff.2 (hkeys ▸ hk))
    have hget := hagree k hne.1 hne.2
    rw [Flow.get?_written, Flow.get?_written, if_neg hne.2, if_neg hne.2, hv, hw] at hget
    rw [hv, hw]
    exact hget
  · exact fun hgh => AgreeUndated.written (fun _ _ _ => rfl) hgh t t'

/-- A document that is read as a flow is read so at any time, up to the dates. -/
theorem flow?_later {now : Timestamp} {f : Flow} (hf : d.flow? now = some f) (later : Timestamp) :
    ∃ t t', d.flow? later = some { f with createdAt := t, updatedAt := t' } := by
  obtain ⟨hne, hread⟩ := flow?_eq_some_iff.1 hf
  obtain ⟨h₁, h₂, h₃, h₄, h₅, h₆, h₇, h₈, hcreated, hupdated⟩ := Flow.ofDocument_eq_ok_iff.1 hread
  obtain ⟨t, ht⟩ := Flow.exists_optionalMoment hcreated later
  obtain ⟨t', ht'⟩ := Flow.exists_optionalMoment hupdated later
  exact ⟨t, t', flow?_eq_some_iff.2
    ⟨hne, Flow.ofDocument_eq_ok_iff.2 ⟨h₁, h₂, h₃, h₄, h₅, h₆, h₇, h₈, ht, ht'⟩⟩⟩

end Document

/-- What an update writes does not depend on dates. -/
theorem FlowUpdate.changes_merge_dated (u : FlowUpdate) (f : Flow) (now later t t' : Timestamp) :
    (u.merge later { f with createdAt := t, updatedAt := t' }).changes =
      (u.merge now f).changes := by
  rw [Flow.changes_eq, Flow.changes_eq]
  rfl

/-! ## What a save finds and what it leaves -/

/-- What a save writes that reads the store. -/
def FlowUpdate.planIn (u : FlowUpdate) (t : Timestamp) (s : Store) : Write :=
  Write.plan t u ((s.document? u.id).bind (Document.flow? t))

namespace Store
variable {s : Store} {id : String} {d : Document} {f g : Flow}

/-- The store is within reach, and has nothing under an id. -/
structure Lacks (s : Store) (id : String) : Prop where
  reached : s.failure = none
  hits : s.updatesMiss = false
  absent : s.document? id = none

/-- The store is within reach, and has a document under an id that is read as a flow, dates aside. -/
structure Holds (s : Store) (id : String) (d : Document) (f : Flow) : Prop where
  reached : s.failure = none
  hits : s.updatesMiss = false
  found : s.document? id = some d
  read : ∀ now, ∃ t t', d.flow? now = some { f with createdAt := t, updatedAt := t' }

theorem Holds.hasId (h : s.Holds id d f) : d.hasId id = true := by
  simpa using List.find?_some h.found

theorem Holds.id_eq (h : s.Holds id d f) : f.id = id := by
  obtain ⟨t, t', hread⟩ := h.read ⟨0, none⟩
  exact Flow.id_of_ofDocument (f := { f with createdAt := t, updatedAt := t' }) h.hasId
    (Document.flow?_eq_some_iff.1 hread).2

/-- The update of a flow leaves the flow that was written. -/
theorem Holds.update (h : s.Holds id d f) (hg : g.Proper) (hid : g.id = id) (t : Timestamp) :
    ∃ saved s', (Write.update id g.changes).apply t s = .ok (saved, s') ∧
      s'.Holds id (g.written t d) g := by
  refine ⟨_, _, update_changes h.reached h.hits t id g, h.reached, h.hits, ?_, fun now => ?_⟩
  · have hfound := h.found
    rw [document?] at hfound ⊢
    rw [find?_updateFirst fun d => Flow.hasId_written g t d id, hfound, Option.map_some]
  · obtain ⟨t₁, t₂, hread⟩ := h.read now
    have hcreated := Flow.optionalMoment_createdAt (Document.flow?_eq_some_iff.1 hread).2
    have hwritten : Flow.ofDocument now (g.written t d) =
        .ok { g with createdAt := t₁, updatedAt := t } :=
      Flow.ofDocument_written hg (hid ▸ h.hasId) hcreated
    exact ⟨t₁, t, Document.flow?_eq_some_iff.2 ⟨Flow.written_ne_nil g t d, hwritten⟩⟩

theorem Holds.planIn {u : FlowUpdate} (h : s.Holds id d f) (hid : u.id = id) (now t : Timestamp) :
    u.planIn t s = .update id (u.merge now f).changes := by
  obtain ⟨t₁, t₂, hread⟩ := h.read t
  rw [FlowUpdate.planIn, hid, h.found, Option.bind_some, hread]
  exact congrArg₂ Write.update h.id_eq (u.changes_merge_dated f now t t₁ t₂)

/-- A new flow is refused under an id that is taken, be it by a document that is no flow. -/
theorem insert_taken (hreached : s.failure = none) (hfound : s.document? id = some d)
    (hid : g.id = id) (t : Timestamp) : (Write.insert g).apply t s = .error .duplicateKey := by
  have hany : s.documents.any (·.sharesId g.document) = true := by
    refine List.any_eq_true.2 ⟨d, List.mem_of_find?_eq_some hfound, ?_⟩
    rw [Document.sharesId_document, hid]
    simpa using List.find?_some hfound
  simp only [Write.apply, Store.insert, insertDocument, hreached, hany, if_true, Except.map]

theorem Holds.insert_refused (h : s.Holds id d f) (hid : g.id = id) (t : Timestamp) :
    (Write.insert g).apply t s = .error .duplicateKey := insert_taken h.reached h.found hid t

/-- A new flow is put under an id that is not taken. -/
theorem Lacks.insert (h : s.Lacks id) (hg : g.Proper) (hid : g.id = id) (t : Timestamp) :
    ∃ s', (Write.insert g).apply t s = .ok (some g, s') ∧ s'.Holds id g.document g := by
  have hany : s.documents.any (·.sharesId g.document) = false := by
    refine List.any_eq_false.2 fun d hd => ?_
    rw [Document.sharesId_document, hid]
    exact List.find?_eq_none.1 h.absent d hd
  have happly : (Write.insert g).apply t s =
      .ok (some g, { s with documents := s.documents ++ [g.document] }) := by
    simp only [Write.apply, Store.insert, insertDocument, h.reached, hany, Except.map,
      Bool.false_eq_true, if_false]
  refine ⟨_, happly, h.reached, h.hits, ?_, fun now => ?_⟩
  · have habsent := h.absent
    rw [document?] at habsent ⊢
    rw [List.find?_append, habsent, Option.none_or]
    simp [hid]
  · exact ⟨g.createdAt, g.updatedAt, Flow.flow?_document hg now⟩

/-- Every document is read as a flow, and the store is within reach. -/
structure Healthy (s : Store) : Prop where
  reached : s.failure = none
  hits : s.updatesMiss = false
  readable : ∀ d ∈ s.documents, ∃ now f, d.flow? now = some f

theorem Healthy.lacks_or_holds (h : s.Healthy) (id : String) (now : Timestamp) :
    s.Lacks id ∨ ∃ d f, s.Holds id d f ∧ s.get now id = .ok (some f) := by
  cases hfound : s.document? id with
  | none => exact .inl ⟨h.reached, h.hits, hfound⟩
  | some d =>
    obtain ⟨t, f, hf⟩ := h.readable d (List.mem_of_find?_eq_some hfound)
    obtain ⟨t₁, t₂, hnow⟩ := Document.flow?_later hf now
    refine .inr ⟨d, _, ⟨h.reached, h.hits, hfound, Document.flow?_later hnow⟩, ?_⟩
    rw [get_of_reached h.reached, hfound, Option.bind_some, hnow]

theorem Lacks.planIn {u : FlowUpdate} (h : s.Lacks id) (hid : u.id = id) (t : Timestamp) :
    u.planIn t s = .insert (u.create t) := by
  rw [FlowUpdate.planIn, hid, h.absent]
  rfl

/-- Whenever its two steps are taken, a save leaves a document that is read as a flow, dates aside. -/
def Leaves (s : Store) (u : FlowUpdate) (d : Document) (f : Flow) : Prop :=
  ∀ t t', ∃ saved s' d', (u.planIn t s).apply t' s = .ok (saved, s') ∧
    s'.Holds u.id d' f ∧ d'.AgreeUndated d

variable {u v : FlowUpdate}

theorem Holds.leaves (h : s.Holds id d f) (hu : u.Proper) (hid : u.id = id) (now : Timestamp) :
    s.Leaves u ((u.merge now f).written now d) (u.merge now f) := by
  subst hid
  intro t t'
  obtain ⟨saved, s', happly, hs'⟩ := h.update (FlowUpdate.proper_merge hu now f) h.id_eq t'
  rw [← h.planIn rfl now t] at happly
  exact ⟨saved, s', _, happly, hs', .written (fun _ _ _ => rfl) rfl t' now⟩

theorem Lacks.leaves (h : s.Lacks id) (hu : u.Proper) (hid : u.id = id) (now : Timestamp) :
    s.Leaves u (u.create now).document (u.create now) := by
  subst hid
  intro t t'
  obtain ⟨s', happly, hs'⟩ := h.insert (FlowUpdate.proper_create hu t) rfl t'
  rw [← h.planIn rfl t] at happly
  refine ⟨_, s', _, happly, ⟨hs'.reached, hs'.hits, hs'.found, hs'.read⟩, fun k hc hk => ?_⟩
  simp [Flow.document, Entries.get?_cons, hc, hk, FlowUpdate.create, Flow.nodeDocuments,
    Flow.edgeDocuments]

theorem Healthy.leaves (h : s.Healthy) (hu : u.Proper) (now : Timestamp) :
    ∃ d f, s.Leaves u d f := by
  rcases h.lacks_or_holds u.id now with hlacks | ⟨d, f, hholds, -⟩
  · exact ⟨_, _, hlacks.leaves hu rfl now⟩
  · exact ⟨_, _, hholds.leaves hu rfl now⟩

/-- A second save merges into what the first one has left. -/
theorem Leaves.andThen (h : s.Leaves u d f) (hv : v.Proper) (hid : v.id = u.id)
    (now t₁ t₂ t₃ t₄ : Timestamp) :
    ∃ saved s₁ saved' s₂ d', (u.planIn t₁ s).apply t₂ s = .ok (saved, s₁) ∧ s₁.failure = none ∧
      (v.planIn t₃ s₁).apply t₄ s₁ = .ok (saved', s₂) ∧ s₂.document? v.id = some d' ∧
      d'.AgreeUndated ((v.merge now f).written now d) := by
  obtain ⟨saved, s₁, d₁, happly, hs₁, hd₁⟩ := h t₁ t₂
  obtain ⟨saved', s₂, d₂, happly', hs₂, hd₂⟩ := hs₁.leaves hv hid now t₃ t₄
  exact ⟨saved, s₁, saved', s₂, d₂, happly, hs₁.reached, happly', hs₂.found,
    hd₂.trans (hd₁.written rfl now now)⟩

end Store

theorem Automation.save_of_reached {s : Store} (h : s.failure = none) (now : Timestamp)
    (u : FlowUpdate) : save now u s = (u.planIn now s).apply now s :=
  save_of_get (Store.get_of_reached h now u.id)

end ChatAutomation
