import ChatAutomation.Proofs.Walk.Loop

/-!
# A walk is depth first

`Visits` is the recursive procedure: a visit to an id that was met before does nothing; any other
visit notes the id, executes its node, and visits one target after the other, each to its end. The
loop of pending ids does the same, `visits_iff_eq_fromId`, although it notes an id only when it
takes it and may hold the same id many times.
-/
namespace ChatAutomation.Walk
variable {σ : Type} {e : Engine σ} {f : Flow}

/-- The ids to go on with behind a node that has been executed. -/
def targets (f : Flow) (id : String) (n : Node) (w : Walk σ) : List String :=
  (followedEdges n (f.outgoing id) w.run.vars).map Edge.target

/-- Notes an id as met. -/
def note (id : String) (w : Walk σ) : Walk σ := { w with met := id :: w.met }

mutual

/-- A visit to an id turns one walk into another. -/
inductive Visits (e : Engine σ) (f : Flow) : String → Walk σ → Walk σ → Prop
  | again {id : String} {w : Walk σ} (h : id ∈ w.met) : Visits e f id w w
  | absent {id : String} {w : Walk σ} (h : id ∉ w.met) (hn : f.node? id = none) :
      Visits e f id w (w.note id)
  | fresh {id : String} {n : Node} {w w' : Walk σ} (h : id ∉ w.met) (hn : f.node? id = some n)
      (rest : VisitsAll e f (targets f id n ((w.note id).visit e n)) ((w.note id).visit e n) w') :
      Visits e f id w w'

/-- Visits to some ids, one finished before the next. -/
inductive VisitsAll (e : Engine σ) (f : Flow) : List String → Walk σ → Walk σ → Prop
  | nil (w : Walk σ) : VisitsAll e f [] w w
  | cons {id : String} {ids : List String} {w₁ w₂ w₃ : Walk σ} (first : Visits e f id w₁ w₂)
      (rest : VisitsAll e f ids w₂ w₃) : VisitsAll e f (id :: ids) w₁ w₃

end

theorem meet_absent {id : String} (w : Walk σ) (hn : f.node? id = none) :
    w.meet e f id = ([], w.note id) := by
  simp only [meet, hn, note]

theorem meet_node {id : String} {n : Node} (w : Walk σ) (hn : f.node? id = some n) :
    w.meet e f id = (targets f id n ((w.note id).visit e n), (w.note id).visit e n) := by
  simp only [meet, hn, note, targets]

/-! ## From the recursion to the loop -/

mutual

theorem Visits.pops {id : String} {w w' : Walk σ} :
    Visits e f id w w' → ∃ n, Pops e f n [id] w w'
  | .again h => ⟨1, .met h (.done _)⟩
  | .absent h hn => ⟨1, .new h (by simpa [meet_absent _ hn] using Pops.done _)⟩
  | .fresh h hn rest => by
    obtain ⟨n, hpops⟩ := rest.pops
    exact ⟨n + 1, .new h (by simpa [meet_node _ hn] using hpops)⟩

theorem VisitsAll.pops {ids : List String} {w w' : Walk σ} :
    VisitsAll e f ids w w' → ∃ n, Pops e f n ids w w'
  | .nil w => ⟨0, .done w⟩
  | .cons first rest => by
    obtain ⟨n, hfirst⟩ := first.pops
    obtain ⟨m, hrest⟩ := rest.pops
    exact ⟨n + m, hfirst.append hrest⟩

end

/-! ## From the loop to the recursion -/

/-- What meeting a new id leads to, once its targets have been worked off. -/
theorem Visits.of_meet {id : String} {w w' : Walk σ} (h : id ∉ w.met)
    (rest : VisitsAll e f (w.meet e f id).1 (w.meet e f id).2 w') : Visits e f id w w' := by
  cases hn : f.node? id with
  | none =>
    rw [meet_absent w hn] at rest
    cases rest
    exact .absent h hn
  | some n =>
    rw [meet_node w hn] at rest
    exact .fresh h hn rest

/-- The loop works off the targets of an id before what was pending behind it, so its pops split into
those of the targets and those of the rest; both are fewer. -/
theorem Pops.visitsAll {n : Nat} {ids : List String} {w w' : Walk σ}
    (h : Pops e f n ids w w') : VisitsAll e f ids w w' := by
  induction n using Nat.strongRecOn generalizing ids w w' with
  | _ n ih =>
    cases h with
    | done => exact .nil w
    | @met n id pending _ _ hid rest => exact .cons (.again hid) (ih n (by omega) rest)
    | @new n id pending _ _ hid rest =>
      obtain ⟨m, k, w₁, hsum, htargets, hpending⟩ := rest.split
      have hvisit : Visits e f id w w₁ := .of_meet hid (ih m (by omega) htargets)
      exact .cons hvisit (ih k (by omega) hpending)

/-! ## Walks -/

/-- Walking from an id is visiting it: the recursion comes to an end, and to no other. -/
theorem visits_iff_eq_fromId (id : String) (r : Run σ) (w : Walk σ) :
    Visits e f id (start r) w ↔ w = fromId e f id r := by
  obtain ⟨n, -, hloop⟩ := pops_fromId e f id r
  constructor
  · intro h
    obtain ⟨m, hpops⟩ := h.pops
    exact hpops.unique hloop
  · rintro rfl
    cases hloop.visitsAll with
    | cons first rest =>
      cases rest
      exact first

end ChatAutomation.Walk

namespace ChatAutomation.Engine
variable {σ : Type}

/-- A run reports what the depth-first procedure visits and what fails there, and leaves behind its
variables and the state outside. That state may hold a record of all calls, so the collaborators are
called in the same order, too. -/
theorem runFlow_depthFirst (e : Engine σ) (f : Flow) (start : Option String) (r : Run σ) :
    match f.entry? start with
    | none => e.runFlow f start r = (⟨f.id, [], []⟩, r.count (.run .noEntry))
    | some id => ∃ w, (∀ w', Walk.Visits e f id (.start r) w' ↔ w' = w) ∧
        (e.runFlow f start r).1 = ⟨f.id, w.visited, w.failed⟩ ∧
        (e.runFlow f start r).2.vars = w.run.vars ∧
        (e.runFlow f start r).2.outside = w.run.outside := by
  cases h : f.entry? start with
  | none => simp only [runFlow, h]
  | some id =>
    refine ⟨Walk.fromId e f id r, Walk.visits_iff_eq_fromId id r, ?_⟩
    simp only [runFlow, h]
    exact ⟨rfl, rfl, rfl⟩

end ChatAutomation.Engine
