import ChatAutomation.Proofs.Automation.Steps

/-!
# Saving over whatever is stored

A save finds the flow under its id, or none, and a document that is no flow counts as none. Then the save
puts a new flow into the store, which refuses it, since the id is taken: `save_unreadable`. So a save
creates or updates exactly where no such document is in its way, `save_upserts_iff`.
-/
namespace ChatAutomation

theorem Flow.optionalMoment_of_none {d : Document} {k : String} (h : d.get? k = none)
    (now : Timestamp) : optionalMoment d k now = .ok now := by
  rw [optionalMoment, h]

/-- A time that is there is the same whenever it is read. -/
theorem Flow.optionalMoment_of_ne_none {d : Document} {k : String} (h : d.get? k ≠ none)
    (now later : Timestamp) : optionalMoment d k later = optionalMoment d k now := by
  obtain ⟨field, hfield⟩ := Option.ne_none_iff_exists'.1 h
  rw [optionalMoment, optionalMoment, hfield]

namespace Automation
variable {u : FlowUpdate} {s : Store} {now : Timestamp} {d : Document} {f : Flow}

/-- Saving under a free id stores a new flow, which is found there from then on. -/
theorem save_lacks (hu : u.Proper) (h : s.Lacks u.id) (now : Timestamp) :
    ∃ s', save now u s = .ok (some (u.create now), s') ∧
      ∀ later, s'.get later u.id = .ok (some (u.create now)) := by
  have hproper := FlowUpdate.proper_create hu now
  obtain ⟨s', happly, hs'⟩ := h.insert hproper rfl now
  refine ⟨s', ?_, fun later => ?_⟩
  · rw [save_of_reached h.reached, h.planIn rfl, happly]
  · exact Store.get_eq_ok_some_iff.2 ⟨hs'.reached, _, hs'.found, Flow.flow?_document hproper later⟩

/-- A document that is no flow keeps its id: nothing can be saved under it. -/
theorem save_unreadable (hreached : s.failure = none) (hd : s.document? u.id = some d)
    (hunreadable : d.flow? now = none) : save now u s = .error .duplicateKey := by
  have hplan : u.planIn now s = .insert (u.create now) := by
    rw [FlowUpdate.planIn, hd, Option.bind_some, hunreadable]
    rfl
  rw [save_of_reached hreached, hplan]
  exact Store.insert_taken hreached hd rfl now

/-- A save gives a flow under the id of the update. -/
def Saves (now : Timestamp) (u : FlowUpdate) (s : Store) (f : Flow) (s' : Store) : Prop :=
  save now u s = .ok (some f, s') ∧ f.id = u.id

theorem Saves.unique {s₁ s₂ : Store} {g : Flow} (h : Saves now u s f s₁) (h' : Saves now u s g s₂) :
    f = g ∧ s₁ = s₂ := by
  have hsame := h.1.symm.trans h'.1
  simpa using hsame

/-- What is saved over a document that is read as a flow is found again, and made at the same time whenever
it is looked for exactly if the document is dated. -/
theorem saves_found (hu : u.Proper) (hreached : s.failure = none) (hmiss : s.updatesMiss = false)
    (hd : s.document? u.id = some d) (hflow : d.flow? now = some f) :
    ∃ s', Saves now u s (u.merge now f) s' ∧
      (∀ later, ∃ t, s'.get later u.id = .ok (some { u.merge now f with createdAt := t })) ∧
      ((∀ later, s'.get later u.id = .ok (some (u.merge now f))) ↔ d.get? "created_at" ≠ none) := by
  obtain ⟨s', hsave, hid, hlook⟩ := save_found hu hreached hmiss hd hflow
  have hcreated := Flow.optionalMoment_createdAt (Document.flow?_eq_some_iff.1 hflow).2
  refine ⟨s', ⟨hsave, hid⟩, fun later => ?_, fun hsame hundated => ?_, fun hdated later => ?_⟩
  · obtain ⟨t, ht⟩ := Flow.exists_optionalMoment hcreated later
    exact ⟨t, hlook later t ht⟩
  · -- an undated flow is made anew whenever it is read
    have hat (t : Timestamp) : t = f.createdAt := by
      have hfound := hlook t t (Flow.optionalMoment_of_none hundated t)
      rw [hsame t] at hfound
      exact (congrArg Flow.createdAt (Option.some.inj (Except.ok.inj hfound))).symm
    exact absurd ((hat ⟨0, none⟩).trans (hat ⟨1, none⟩).symm) (by decide)
  · exact hlook later f.createdAt
      ((Flow.optionalMoment_of_ne_none hdated now later).trans hcreated)

/-- Saving what an editor sent creates or updates a flow exactly where no document is in its way that is no
flow; one that is refuses it. The flow that is given is found again, made when its document says, which
is the same time whenever it is looked for unless the document does not say. -/
theorem save_upserts_iff {v : Value} (hu : FlowUpdate.read v = .ok u) (hreached : s.failure = none)
    (hmiss : s.updatesMiss = false) (now : Timestamp) :
    ((∃ f s', Saves now u s f s' ∧
        ∀ later, ∃ t, s'.get later u.id = .ok (some { f with createdAt := t })) ↔
      ∀ d, s.document? u.id = some d → d.isReadable now = true) ∧
    ((∃ f s', Saves now u s f s' ∧ ∀ later, s'.get later u.id = .ok (some f)) ↔
      ∀ d, s.document? u.id = some d → d.isReadable now = true ∧ d.get? "created_at" ≠ none) ∧
    ∀ d, s.document? u.id = some d → d.isReadable now = false →
      save now u s = .error .duplicateKey := by
  have hproper := FlowUpdate.proper_of_read hu
  unfold Document.isReadable
  cases hfound : s.document? u.id with
  | none =>
    obtain ⟨s', hsave, hlook⟩ := save_lacks hproper ⟨hreached, hmiss, hfound⟩ now
    have hsaves : Saves now u s (u.create now) s' := ⟨hsave, rfl⟩
    exact ⟨iff_of_true ⟨_, s', hsaves, fun later => ⟨now, hlook later⟩⟩ nofun,
      iff_of_true ⟨_, s', hsaves, hlook⟩ nofun, nofun⟩
  | some d =>
    simp only [Option.some.injEq, forall_eq']
    cases hflow : d.flow? now with
    | none =>
      have hrefused := save_unreadable hreached hfound hflow
      simp [Saves, hrefused]
    | some f =>
      obtain ⟨s', hsaves, hfoundAgain, hsame⟩ := saves_found hproper hreached hmiss hfound hflow
      refine ⟨iff_of_true ⟨_, s', hsaves, hfoundAgain⟩ rfl, ?_, nofun⟩
      rw [← hsame]
      constructor
      · rintro ⟨g, s₁, hg, hlook⟩
        obtain ⟨rfl, rfl⟩ := hsaves.unique hg
        exact ⟨rfl, hlook⟩
      · rintro ⟨-, hlook⟩
        exact ⟨_, s', hsaves, hlook⟩

/-- A node without a type, as it was once stored. -/
def remnant : Document :=
  [("id", .plain (.text "f1")), ("name", .plain (.text "Greeting")),
    ("nodes", .plain (.list [.object [("id", .text "t")]]))]

def retitling : Value := .object [("id", .text "f1"), ("name", .text "New")]

def retitled : FlowUpdate := ⟨"f1", some "New", none, none, none, none, none, none⟩

/-- A flow that is read, and that was stored with its date. -/
theorem save_upserts_shelf :
    FlowUpdate.read retitling = .ok retitled ∧ shelf.failure = none ∧ shelf.updatesMiss = false ∧
      ∃ f s', Saves ⟨1, none⟩ retitled shelf f s' ∧
        ∀ later, s'.get later retitled.id = .ok (some f) := by
  have hread : FlowUpdate.read retitling = .ok retitled := rfl
  refine ⟨hread, rfl, rfl, (save_upserts_iff hread rfl rfl ⟨1, none⟩).2.1.2 fun d hd => ?_⟩
  obtain rfl : greeting.document = d := Option.some.inj hd
  exact ⟨rfl, nofun⟩

/-- A document that is no flow cannot be saved over. -/
theorem save_refused_by_remnant :
    FlowUpdate.read retitling = .ok retitled ∧
      save ⟨1, none⟩ retitled { documents := [remnant] } = .error .duplicateKey ∧
      Store.get ⟨1, none⟩ retitled.id { documents := [remnant] } = .ok none :=
  ⟨rfl, rfl, rfl⟩

end Automation
end ChatAutomation
