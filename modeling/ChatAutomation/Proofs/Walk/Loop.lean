import ChatAutomation.Walk
import Mathlib.Data.List.Basic

/-!
# The loop of a walk

`Pops` is the loop without its bound: it takes the next pending id until none is left, and counts
how many it took. An edge is put up only when its source is met for the first time, so the pending
ids together with the edges that are still to be put up shrink by one with every pop. A walk
therefore comes to its end within its bound, `pops_fromId`.
-/
namespace ChatAutomation.Walk
variable {σ : Type} {e : Engine σ} {f : Flow}

/-- Working off the pending ids takes `n` pops and turns one walk into another. -/
inductive Pops (e : Engine σ) (f : Flow) : Nat → List String → Walk σ → Walk σ → Prop
  | done (w : Walk σ) : Pops e f 0 [] w w
  | met {n : Nat} {id : String} {pending : List String} {w w' : Walk σ} (h : id ∈ w.met)
      (rest : Pops e f n pending w w') : Pops e f (n + 1) (id :: pending) w w'
  | new {n : Nat} {id : String} {pending : List String} {w w' : Walk σ} (h : id ∉ w.met)
      (rest : Pops e f n ((w.meet e f id).1 ++ pending) (w.meet e f id).2 w') :
      Pops e f (n + 1) (id :: pending) w w'

/-! ## The bound -/

/-- The edges that are still to be put up: those whose source has not been met. -/
def openEdges (f : Flow) (met : List String) : List Edge :=
  f.edges.filter fun edge => !met.contains edge.source

theorem openEdges_cons (f : Flow) (met : List String) (id : String) :
    openEdges f (id :: met) = (openEdges f met).filter fun edge => !(edge.source == id) := by
  unfold openEdges
  rw [List.filter_filter]
  refine List.filter_congr fun edge _ => ?_
  rw [List.contains_cons, Bool.not_or]

theorem filter_openEdges {met : List String} {id : String} (h : id ∉ met) :
    (openEdges f met).filter (fun edge => edge.source == id) = f.outgoing id := by
  unfold openEdges Flow.outgoing
  rw [List.filter_filter]
  refine List.filter_congr fun edge _ => ?_
  by_cases hid : edge.source = id
  · simp [hid, h]
  · simp [hid]

/-- Meeting an id takes its edges off those that are to be put up. -/
theorem length_openEdges_cons {met : List String} {id : String} (h : id ∉ met) :
    (f.outgoing id).length + (openEdges f (id :: met)).length = (openEdges f met).length := by
  rw [← filter_openEdges h, openEdges_cons]
  exact (List.length_eq_length_filter_add _).symm

theorem length_followedEdges_le (n : Node) (edges : List Edge) (vars : Variables) :
    (followedEdges n edges vars).length ≤ edges.length := by
  unfold followedEdges
  split
  · exact List.length_filter_le _ _
  · exact Nat.le_refl _

theorem length_targets_le (e : Engine σ) (f : Flow) (id : String) (w : Walk σ) :
    (w.meet e f id).1.length ≤ (f.outgoing id).length := by
  unfold meet
  split
  · exact Nat.zero_le _
  · rw [List.length_map]
    exact length_followedEdges_le _ _ _

/-- With as much fuel as there are pending ids and edges to be put up, the loop comes to its end. -/
theorem pops_steps (e : Engine σ) (f : Flow) (fuel : Nat) (pending : List String) (w : Walk σ)
    (hfuel : pending.length + (openEdges f w.met).length ≤ fuel) :
    ∃ n ≤ fuel, Pops e f n pending w (steps e f fuel pending w) := by
  induction fuel generalizing pending w with
  | zero =>
    obtain rfl : pending = [] := List.length_eq_zero_iff.1 (by omega)
    exact ⟨0, Nat.le_refl _, .done w⟩
  | succ fuel ih =>
    cases pending with
    | nil => exact ⟨0, Nat.zero_le _, .done w⟩
    | cons id pending =>
      rw [List.length_cons] at hfuel
      by_cases h : id ∈ w.met
      · obtain ⟨n, hn, hpops⟩ := ih pending w (by omega)
        rw [steps_met e f fuel id pending (by simpa using h)]
        exact ⟨n + 1, by omega, .met h hpops⟩
      · have htargets := length_targets_le e f id w
        have hedges := length_openEdges_cons (f := f) h
        obtain ⟨n, hn, hpops⟩ := ih ((w.meet e f id).1 ++ pending) (w.meet e f id).2 (by
          rw [List.length_append, met_meet]
          omega)
        rw [steps_new e f fuel id pending (by simpa using h)]
        exact ⟨n + 1, by omega, .new h hpops⟩

/-- A walk comes to its end within one pop more than the flow has edges. -/
theorem pops_fromId (e : Engine σ) (f : Flow) (id : String) (r : Run σ) :
    ∃ n ≤ f.edges.length + 1, Pops e f n [id] (start r) (fromId e f id r) := by
  have hopen : (openEdges f (start r).met).length ≤ f.edges.length := List.length_filter_le _ _
  refine pops_steps e f (f.edges.length + 1) [id] (start r) ?_
  rw [List.length_singleton]
  omega

/-! ## Runs of the loop -/

theorem Pops.append {n m : Nat} {ids rest : List String} {w₁ w₂ w₃ : Walk σ}
    (h₁ : Pops e f n ids w₁ w₂) (h₂ : Pops e f m rest w₂ w₃) :
    Pops e f (n + m) (ids ++ rest) w₁ w₃ := by
  induction h₁ with
  | done w => simpa using h₂
  | met h _ ih =>
    rw [Nat.add_right_comm]
    exact .met h (ih h₂)
  | new h _ ih =>
    rw [Nat.add_right_comm]
    exact .new h (by simpa using ih h₂)

/-- What is pending in front is worked off before what is behind it. -/
theorem Pops.split {n : Nat} {ids rest : List String} {w w' : Walk σ}
    (h : Pops e f n (ids ++ rest) w w') :
    ∃ m k w₁, m + k = n ∧ Pops e f m ids w w₁ ∧ Pops e f k rest w₁ w' := by
  generalize hall : ids ++ rest = all at h
  induction h generalizing ids with
  | done w =>
    obtain ⟨rfl, rfl⟩ := List.append_eq_nil_iff.1 hall
    exact ⟨0, 0, w, rfl, .done w, .done w⟩
  | @met n id pending w w' hid hpops ih =>
    cases ids with
    | nil => exact ⟨0, n + 1, w, Nat.zero_add _, .done w, by simpa [← hall] using Pops.met hid hpops⟩
    | cons head ids =>
      obtain ⟨rfl, rfl⟩ := List.cons_eq_cons.1 hall
      obtain ⟨m, k, w₁, hsum, hids, hrest⟩ := ih rfl
      exact ⟨m + 1, k, w₁, by omega, .met hid hids, hrest⟩
  | @new n id pending w w' hid hpops ih =>
    cases ids with
    | nil => exact ⟨0, n + 1, w, Nat.zero_add _, .done w, by simpa [← hall] using Pops.new hid hpops⟩
    | cons head ids =>
      obtain ⟨rfl, rfl⟩ := List.cons_eq_cons.1 hall
      obtain ⟨m, k, w₁, hsum, hids, hrest⟩ := ih (List.append_assoc _ _ _)
      exact ⟨m + 1, k, w₁, by omega, .new hid hids, hrest⟩

/-- The loop has one end only. -/
theorem Pops.unique {n m : Nat} {pending : List String} {w w₁ w₂ : Walk σ}
    (h₁ : Pops e f n pending w w₁) (h₂ : Pops e f m pending w w₂) : w₁ = w₂ := by
  induction h₁ generalizing m with
  | done w =>
    cases h₂
    rfl
  | met h _ ih =>
    cases h₂ with
    | met _ hrest => exact ih hrest
    | new hnot _ => exact absurd h hnot
  | new h _ ih =>
    cases h₂ with
    | met hmet _ => exact absurd hmet h
    | new _ hrest => exact ih hrest

/-- What every pop keeps holds at the end. -/
theorem Pops.invariant {P : List String → Walk σ → Prop} {n : Nat} {pending : List String}
    {w w' : Walk σ} (h : Pops e f n pending w w')
    (hmet : ∀ id pending w, id ∈ w.met → P (id :: pending) w → P pending w)
    (hnew : ∀ id pending w, id ∉ w.met → P (id :: pending) w →
      P ((w.meet e f id).1 ++ pending) (w.meet e f id).2)
    (hstart : P pending w) : P [] w' := by
  induction h with
  | done w => exact hstart
  | met hid _ ih => exact ih (hmet _ _ _ hid hstart)
  | new hid _ ih => exact ih (hnew _ _ _ hid hstart)

end ChatAutomation.Walk
