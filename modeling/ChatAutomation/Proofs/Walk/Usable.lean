import ChatAutomation.Proofs.Walk.Course
import ChatAutomation.Proofs.Walk.DepthFirst

/-!
# A run depends on the usable graph only

What a run can use of a flow is the node under each id, and of the edges that leave it those that lead to
a node. Two flows that agree on that may put up different missing ids, and so note different ones as met.
`Walk.Alike` leaves these out of account: the two loops stay alike, each taking its missing ids while the
other one waits, and `runFlow_eq_of_sameUsable` is the result.
-/
namespace ChatAutomation

namespace Flow

/-- Is there a node with an id? -/
def finds (f : Flow) (id : String) : Bool := (f.node? id).isSome

/-- Where the edges lead that leave an id and end at a node, with their handles. -/
def usable (f : Flow) (id : String) : List (String × Option String) :=
  ((f.outgoing id).filter fun edge => f.finds edge.target).map fun edge =>
    (edge.target, edge.sourceHandle)

/-- The flows have the same node under each id, and the same usable edges behind each node. -/
structure SameUsable (f g : Flow) : Prop where
  node?_eq : ∀ id, f.node? id = g.node? id
  usable_eq : ∀ id, f.HasNode id → f.usable id = g.usable id

variable {f g : Flow}

theorem SameUsable.finds_eq (h : f.SameUsable g) : f.finds = g.finds :=
  funext fun id => by rw [finds, finds, h.node?_eq]

/-- Where no id is used twice, the order of the nodes does not matter. -/
theorem node?_eq_of_perm (hids : (g.nodes.map Node.id).Nodup) (hperm : f.nodes.Perm g.nodes)
    (id : String) : f.node? id = g.node? id := by
  cases hn : f.node? id with
  | some n =>
    rw [← id_of_node? hn, node?_of_mem hids (hperm.mem_iff.1 (mem_of_node? hn))]
  | none =>
    refine (node?_of_not_hasNode ?_).symm
    rintro ⟨n, hn', hid⟩
    exact not_hasNode_of_node? hn ⟨n, hperm.mem_iff.2 hn', hid⟩

/-- Neither the order of the nodes matters nor that of edges which leave different nodes. -/
theorem sameUsable_of_perm (hids : (g.nodes.map Node.id).Nodup) (hperm : f.nodes.Perm g.nodes)
    (hout : ∀ id, f.outgoing id = g.outgoing id) : f.SameUsable g := by
  have hnode := node?_eq_of_perm hids hperm
  refine ⟨hnode, fun id _ => ?_⟩
  simp only [usable, finds, hnode, hout]

/-- The flow without its edges to nowhere. -/
def prune (f : Flow) : Flow := { f with edges := f.edges.filter fun edge => f.finds edge.target }

theorem finds_prune (f : Flow) : f.prune.finds = f.finds := rfl

theorem sameUsable_prune (f : Flow) : f.SameUsable f.prune := by
  refine ⟨fun _ => rfl, fun id _ => ?_⟩
  rw [usable, usable, finds_prune, outgoing, outgoing, prune, List.filter_filter, List.filter_filter,
    List.filter_filter]
  congr 2
  funext edge
  cases f.finds edge.target <;> simp

end Flow

/-- The targets that a node chooses among usable edges. -/
def chosenTargets (n : Node) (edges : List (String × Option String)) (vars : Variables) : List String :=
  (edges.filter fun edge => !n.isCondition || edge.2 == some (chosenHandle vars)).map Prod.fst

namespace Walk
variable {σ : Type} {e : Engine σ} {f g : Flow}

/-- The targets behind a node that are nodes are those that it chooses among the usable edges. -/
theorem filter_targets (f : Flow) (id : String) (n : Node) (w : Walk σ) :
    (targets f id n w).filter f.finds = chosenTargets n (f.usable id) w.run.vars := by
  unfold targets chosenTargets followedEdges Flow.usable
  cases n.isCondition <;>
    simp [List.filter_map, List.filter_filter, Function.comp_def, Bool.and_comm]

/-- The walks have done the same, and have met the same ids but for those that are not known. -/
structure Alike (known : String → Bool) (w v : Walk σ) : Prop where
  visited_eq : w.visited = v.visited
  failed_eq : w.failed = v.failed
  run_eq : w.run = v.run
  mem_met_iff : ∀ id, known id = true → (id ∈ w.met ↔ id ∈ v.met)

variable {known : String → Bool} {w w' v v' : Walk σ}

theorem Alike.refl (known : String → Bool) (w : Walk σ) : Alike known w w :=
  ⟨rfl, rfl, rfl, fun _ _ => Iff.rfl⟩

theorem Alike.symm (h : Alike known w v) : Alike known v w :=
  ⟨h.visited_eq.symm, h.failed_eq.symm, h.run_eq.symm, fun id hid => (h.mem_met_iff id hid).symm⟩

theorem Alike.trans {u : Walk σ} (h : Alike known w v) (h' : Alike known v u) : Alike known w u :=
  ⟨h.visited_eq.trans h'.visited_eq, h.failed_eq.trans h'.failed_eq, h.run_eq.trans h'.run_eq,
    fun id hid => (h.mem_met_iff id hid).trans (h'.mem_met_iff id hid)⟩

theorem alike_note {id : String} (hid : known id = false) (w : Walk σ) :
    Alike known (w.note id) w := by
  refine ⟨rfl, rfl, rfl, fun x hx => ?_⟩
  have hne : x ≠ id := by
    rintro rfl
    rw [hx] at hid
    cases hid
  simp [note, hne]

/-- Meeting a node keeps two walks alike. -/
theorem Alike.meet (h : Alike f.finds w v) (hs : f.SameUsable g) {id : String} {n : Node}
    (hn : f.node? id = some n) :
    Alike f.finds (w.meet e f id).2 (v.meet e g id).2 ∧
      (w.meet e f id).1.filter f.finds = (v.meet e g id).1.filter f.finds := by
  have hvisit : Alike f.finds ((w.note id).visit e n) ((v.note id).visit e n) := by
    constructor
    · simp only [visit, note, h.visited_eq]
    · simp only [visit, note, h.failed_eq, h.run_eq]
      rfl
    · simp only [visit, note, h.run_eq]
    · intro x hx
      simp only [met_visit, note, List.mem_cons, h.mem_met_iff x hx]
  have husable := hs.usable_eq id (Flow.hasNode_of_node? hn)
  rw [meet_node w hn, meet_node v (hs.node?_eq id ▸ hn)]
  refine ⟨hvisit, ?_⟩
  rw [filter_targets, hs.finds_eq, filter_targets, husable, hvisit.run_eq]

/-! ## The loops -/

/-- The loop takes missing ids without doing anything. -/
theorem Pops.missing {n : Nat} {ids : List String} (h : Pops e f n ids w w')
    (hids : ∀ id ∈ ids, ¬ f.finds id = true) : Alike f.finds w' w := by
  induction h with
  | done w => exact .refl _ w
  | met _ _ ih => exact ih fun x hx => hids x (List.mem_cons_of_mem _ hx)
  | @new n id pending w w' _ _ ih =>
    have hfinds : f.finds id = false := Bool.eq_false_iff.2 (hids id List.mem_cons_self)
    have hn : f.node? id = none := by simpa [Flow.finds] using hfinds
    rw [meet_absent w hn] at ih
    exact (ih fun x hx => hids x (List.mem_cons_of_mem _ hx)).trans (alike_note hfinds w)

/-- Past the missing ids in front, the loop goes on with the next id that is a node. -/
theorem Pops.next {n : Nat} {ids rest : List String} {id : String} (h : Pops e f n ids w w')
    (hids : ids.filter f.finds = id :: rest) :
    ∃ m v ids', Pops e f m (id :: ids') v w' ∧ ids'.filter f.finds = rest ∧ Alike f.finds v w := by
  obtain ⟨front, ids', rfl, hfront, -, hrest⟩ := List.filter_eq_cons_iff.1 hids
  obtain ⟨_, m, v, -, hmissing, hpops⟩ := h.split
  exact ⟨m, v, ids', hpops, hrest, hmissing.missing hfront⟩

/-- Where one walk is due to take a node, another one that is alike comes to take it too. -/
theorem Pops.due (hs : f.SameUsable g) {m : Nat} {ids ids' : List String} {id : String}
    (h : Pops e g m ids' v v') (hid : f.finds id = true)
    (hids : (id :: ids).filter f.finds = ids'.filter f.finds) (hw : Alike f.finds w v) :
    ∃ k u rest, Pops e g k (id :: rest) u v' ∧ ids.filter f.finds = rest.filter f.finds ∧
      Alike f.finds w u := by
  have hfinds := hs.finds_eq
  rw [List.filter_cons_of_pos hid, hfinds] at hids
  obtain ⟨k, u, rest, hnext, hrest, hu⟩ := h.next hids.symm
  rw [← hfinds] at hrest hu
  exact ⟨k, u, rest, hnext, hrest.symm, hw.trans hu.symm⟩

/-- Two loops over the same usable graph end alike if they begin alike, with the same nodes pending. -/
theorem Pops.alike (hs : f.SameUsable g) {n m : Nat} {ids ids' : List String}
    (h : Pops e f n ids w w') (h' : Pops e g m ids' v v')
    (hids : ids.filter f.finds = ids'.filter f.finds) (hw : Alike f.finds w v) :
    Alike f.finds w' v' := by
  have hfinds := hs.finds_eq
  -- the first loop leads; the second one takes its missing ids when the next node is due
  induction h generalizing m ids' v with
  | done w =>
    rw [List.filter_nil, eq_comm, List.filter_eq_nil_iff, hfinds] at hids
    exact hw.trans (hfinds ▸ h'.missing hids).symm
  | @met n id pending w w' hid _ ih =>
    cases hknown : f.finds id with
    | true =>
      obtain ⟨k, u, ids'', hnext, hpending, hwu⟩ := h'.due hs hknown hids hw
      cases hnext with
      | met _ hrest => exact ih hrest hpending hwu
      | new hnot _ => exact absurd ((hwu.mem_met_iff id hknown).1 hid) hnot
    | false =>
      rw [List.filter_cons_of_neg (by simp [hknown])] at hids
      exact ih h' hids hw
  | @new n id pending w w' hid _ ih =>
    cases hn : f.node? id with
    | some node =>
      have hknown : f.finds id = true := by rw [Flow.finds, hn]; rfl
      obtain ⟨k, u, ids'', hnext, hpending, hwu⟩ := h'.due hs hknown hids hw
      cases hnext with
      | met hmet _ => exact absurd ((hwu.mem_met_iff id hknown).2 hmet) hid
      | new _ hrest =>
        obtain ⟨hmeet, htargets⟩ := hwu.meet (e := e) hs hn
        refine ih hrest ?_ hmeet
        rw [List.filter_append, List.filter_append, htargets, hpending]
    | none =>
      have hknown : f.finds id = false := by rw [Flow.finds, hn]; rfl
      rw [meet_absent w hn] at ih
      rw [List.filter_cons_of_neg (by simp [hknown])] at hids
      exact ih h' hids ((alike_note hknown w).trans hw)

/-- Walks from an id over the same usable graph are alike. -/
theorem alike_fromId (hs : f.SameUsable g) (e : Engine σ) (id : String) (r : Run σ) :
    Alike f.finds (fromId e f id r) (fromId e g id r) := by
  obtain ⟨_, -, hpops⟩ := pops_fromId e f id r
  obtain ⟨_, -, hpops'⟩ := pops_fromId e g id r
  exact hpops.alike hs hpops' rfl (.refl _ _)

end Walk

namespace Engine
variable {σ : Type}

/-- A run from an id depends only on the usable graph: what is visited and what fails, and all that the
run leaves, its variables, what is outside and what was counted. -/
theorem runFlow_eq_of_sameUsable {f g : Flow} (hid : f.id = g.id) (hs : f.SameUsable g)
    {start : String} (hstart : start ≠ "") (e : Engine σ) (r : Run σ) :
    e.runFlow f (some start) r = e.runFlow g (some start) r := by
  have halike := Walk.alike_fromId hs e start r
  simp only [runFlow, Flow.entry?_of_ne_empty hstart, Walk.report, hid, halike.visited_eq,
    halike.failed_eq, halike.run_eq]

/-- The cycle with its nodes and its edges in another order, and without the edge to nowhere. -/
def rearranged : Flow :=
  let edge (source target : String) : Edge := ⟨source ++ target, source, target, none, none, []⟩
  { Walk.ring with
    nodes := Walk.ring.nodes.reverse
    edges := [edge "c" "a", edge "b" "c", edge "a" "b", edge "a" "c"] }

theorem runFlow_rearranged :
    Walk.ring.id = rearranged.id ∧ Walk.ring.SameUsable rearranged ∧
      Walk.refusing.runFlow Walk.ring (some "b") ⟨[], (), []⟩ =
        Walk.refusing.runFlow rearranged (some "b") ⟨[], (), []⟩ := by
  have hid : Walk.ring.id = rearranged.id := rfl
  have hids : (rearranged.nodes.map Node.id).Nodup := by decide +kernel
  have hedges : ∀ n ∈ Walk.ring.nodes, Walk.ring.usable n.id = rearranged.usable n.id := by
    decide +kernel
  have hsame : Walk.ring.SameUsable rearranged := by
    refine ⟨Flow.node?_eq_of_perm hids (List.reverse_perm _).symm, ?_⟩
    rintro id ⟨n, hn, rfl⟩
    exact hedges n hn
  exact ⟨hid, hsame, runFlow_eq_of_sameUsable hid hsame (by decide) Walk.refusing ⟨[], (), []⟩⟩

end Engine
end ChatAutomation
