import ChatAutomation.Proofs.Walk.Loop
import Mathlib.Data.List.Nodup
import Mathlib.Logic.Relation

/-!
# What a walk reaches

An id leads to another when it belongs to a node and an edge goes from the one to the other; `Reaches`
is the closure of that. A walk visits no id twice and only nodes that its start reaches. Where no
node is a condition it visits all of those, in an order that the flow alone decides.
-/
namespace ChatAutomation

namespace Flow

/-- Is there a node with an id? -/
def HasNode (f : Flow) (id : String) : Prop := ∃ n ∈ f.nodes, n.id = id

def Leads (f : Flow) (a b : String) : Prop :=
  f.HasNode a ∧ ∃ edge ∈ f.edges, edge.source = a ∧ edge.target = b

/-- Does a path lead from an id to another? All ids on it but the last one belong to nodes. -/
def Reaches (f : Flow) : String → String → Prop := Relation.ReflTransGen f.Leads

def HasNoCondition (f : Flow) : Prop := ∀ n ∈ f.nodes, n.isCondition = false

variable {f : Flow} {id : String} {n : Node}

theorem id_of_node? (h : f.node? id = some n) : n.id = id := by
  simpa using List.find?_some h

theorem mem_of_node? (h : f.node? id = some n) : n ∈ f.nodes := List.mem_of_find?_eq_some h

theorem hasNode_of_node? (h : f.node? id = some n) : f.HasNode id :=
  ⟨n, mem_of_node? h, id_of_node? h⟩

theorem not_hasNode_of_node? (h : f.node? id = none) : ¬ f.HasNode id := by
  rintro ⟨n, hn, hid⟩
  have hne := List.find?_eq_none.1 h n hn
  simp [hid] at hne

theorem HasNode.exists_node? (h : f.HasNode id) : ∃ n, f.node? id = some n := by
  cases hn : f.node? id with
  | none => exact absurd h (not_hasNode_of_node? hn)
  | some n => exact ⟨n, rfl⟩

theorem node?_of_not_hasNode (h : ¬ f.HasNode id) : f.node? id = none := by
  cases hn : f.node? id with
  | none => rfl
  | some n => exact absurd (hasNode_of_node? hn) h

/-- Where no id is used twice, a node is found under its id. -/
theorem node?_of_mem (hids : (f.nodes.map Node.id).Nodup) (hn : n ∈ f.nodes) :
    f.node? n.id = some n := by
  cases hfound : f.node? n.id with
  | none => exact absurd ⟨n, hn, rfl⟩ (not_hasNode_of_node? hfound)
  | some m =>
    rw [List.inj_on_of_nodup_map hids (mem_of_node? hfound) hn (id_of_node? hfound)]

theorem mem_outgoing {edge : Edge} : edge ∈ f.outgoing id ↔ edge ∈ f.edges ∧ edge.source = id := by
  simp [outgoing]

end Flow

namespace Walk
variable {σ τ : Type} {e : Engine σ} {e' : Engine τ} {f : Flow}

/-! ## One step -/

theorem mem_of_mem_followedEdges {n : Node} {edges : List Edge} {vars : Variables} {edge : Edge}
    (h : edge ∈ followedEdges n edges vars) : edge ∈ edges := by
  unfold followedEdges at h
  split at h
  · exact List.mem_of_mem_filter h
  · exact h

theorem followedEdges_of_not_condition {n : Node} (h : n.isCondition = false) (edges : List Edge)
    (vars : Variables) : followedEdges n edges vars = edges := by
  simp only [followedEdges, h, Bool.false_eq_true, if_false]

theorem visited_meet_absent {id : String} (w : Walk σ) (h : f.node? id = none) :
    (w.meet e f id).2.visited = w.visited := by
  simp only [meet, h]

theorem visited_meet_node {id : String} {n : Node} (w : Walk σ) (h : f.node? id = some n) :
    (w.meet e f id).2.visited = w.visited ++ [id] := by
  simp only [meet, h, visit, Flow.id_of_node? h]

/-- Meeting an id visits it if it is that of a node, and nothing else. -/
theorem mem_visited_meet {id x : String} {w : Walk σ} :
    x ∈ (w.meet e f id).2.visited ↔ x ∈ w.visited ∨ x = id ∧ f.HasNode id := by
  cases hn : f.node? id with
  | none => simp [visited_meet_absent w hn, Flow.not_hasNode_of_node? hn]
  | some n => simp [visited_meet_node w hn, Flow.hasNode_of_node? hn]

theorem nodup_visited_meet {id : String} {w : Walk σ} (h : w.visited.Nodup) (hid : id ∉ w.visited) :
    (w.meet e f id).2.visited.Nodup := by
  cases hn : f.node? id with
  | none =>
    rw [visited_meet_absent w hn]
    exact h
  | some n =>
    rw [visited_meet_node w hn, ← List.concat_eq_append]
    exact h.concat hid

theorem leads_of_mem_targets {id b : String} {w : Walk σ} (h : b ∈ (w.meet e f id).1) :
    f.Leads id b := by
  cases hn : f.node? id with
  | none => simp [meet, hn] at h
  | some n =>
    simp only [meet, hn, List.mem_map] at h
    obtain ⟨edge, hedge, htarget⟩ := h
    obtain ⟨hmem, hsource⟩ := Flow.mem_outgoing.1 (mem_of_mem_followedEdges hedge)
    exact ⟨Flow.hasNode_of_node? hn, edge, hmem, hsource, htarget⟩

/-- Without conditions all targets of a node are put up. -/
theorem targets_eq_outgoing (hf : f.HasNoCondition) {id : String} {n : Node} (w : Walk σ)
    (hn : f.node? id = some n) : (w.meet e f id).1 = (f.outgoing id).map Edge.target := by
  simp only [meet, hn, followedEdges_of_not_condition (hf n (Flow.mem_of_node? hn))]

theorem mem_targets_of_leads (hf : f.HasNoCondition) {a b : String} (w : Walk σ)
    (h : f.Leads a b) : b ∈ (w.meet e f a).1 := by
  obtain ⟨hnode, edge, hedge, hsource, htarget⟩ := h
  obtain ⟨n, hn⟩ := hnode.exists_node?
  rw [targets_eq_outgoing hf w hn]
  exact List.mem_map.2 ⟨edge, Flow.mem_outgoing.2 ⟨hedge, hsource⟩, htarget⟩

/-! ## Nothing but what is reached -/

/-- What is pending and what was visited is reached from `start`, and nothing was visited twice. -/
structure Reached (f : Flow) (start : String) (pending : List String) (w : Walk σ) : Prop where
  pending_reached : ∀ id ∈ pending, f.Reaches start id
  visited_reached : ∀ id ∈ w.visited, f.HasNode id ∧ f.Reaches start id
  visited_met : ∀ id ∈ w.visited, id ∈ w.met
  nodup : w.visited.Nodup

theorem reached_start (f : Flow) (id : String) (r : Run σ) : Reached f id [id] (start r) := by
  refine ⟨?_, ?_, ?_, List.nodup_nil⟩
  · intro x hx
    rw [List.mem_singleton.1 hx]
    exact .refl
  all_goals simp [Walk.start]

theorem reached_meet {start id : String} {pending : List String} {w : Walk σ} (hid : id ∉ w.met)
    (h : Reached f start (id :: pending) w) :
    Reached f start ((w.meet e f id).1 ++ pending) (w.meet e f id).2 := by
  have hreach : f.Reaches start id := h.pending_reached id List.mem_cons_self
  have hpending : ∀ x ∈ (w.meet e f id).1 ++ pending, f.Reaches start x := by
    intro x hx
    rcases List.mem_append.1 hx with hx | hx
    · exact hreach.tail (leads_of_mem_targets hx)
    · exact h.pending_reached x (List.mem_cons_of_mem _ hx)
  refine ⟨hpending, fun x hx => ?_, fun x hx => ?_,
    nodup_visited_meet h.nodup fun hvisited => hid (h.visited_met id hvisited)⟩
  · rcases mem_visited_meet.1 hx with hx | ⟨rfl, hnode⟩
    · exact h.visited_reached x hx
    · exact ⟨hnode, hreach⟩
  · rw [met_meet]
    rcases mem_visited_meet.1 hx with hx | ⟨rfl, -⟩
    · exact List.mem_cons_of_mem _ (h.visited_met x hx)
    · exact List.mem_cons_self

theorem reached_fromId (e : Engine σ) (f : Flow) (id : String) (r : Run σ) :
    Reached f id [] (fromId e f id r) := by
  obtain ⟨n, -, hpops⟩ := pops_fromId e f id r
  refine hpops.invariant ?_ ?_ (reached_start f id r)
  · intro x pending w _ h
    exact ⟨fun y hy => h.pending_reached y (List.mem_cons_of_mem _ hy), h.visited_reached,
      h.visited_met, h.nodup⟩
  · intro x pending w hx h
    exact reached_meet hx h

/-! ## All that is reached -/

/-- Nothing is lost: the start and whatever an id leads to that was met have been met themselves or
are pending, and nodes that were met have been visited. -/
structure Covers (f : Flow) (start : String) (pending : List String) (w : Walk σ) : Prop where
  start_known : start ∈ w.met ∨ start ∈ pending
  closed : ∀ a ∈ w.met, ∀ b, f.Leads a b → b ∈ w.met ∨ b ∈ pending
  visited : ∀ a ∈ w.met, f.HasNode a → a ∈ w.visited

theorem covers_start (f : Flow) (id : String) (r : Run σ) : Covers f id [id] (start r) := by
  refine ⟨.inr List.mem_cons_self, ?_, ?_⟩
  all_goals simp [Walk.start]

/-- An id that was pending has been met or is pending still, once another one has been met. -/
theorem known_meet {id x : String} {pending : List String} {w : Walk σ}
    (h : x ∈ w.met ∨ x ∈ id :: pending) :
    x ∈ (w.meet e f id).2.met ∨ x ∈ (w.meet e f id).1 ++ pending := by
  rw [met_meet]
  rcases h with h | h
  · exact .inl (List.mem_cons_of_mem _ h)
  · rcases List.mem_cons.1 h with rfl | h
    · exact .inl List.mem_cons_self
    · exact .inr (List.mem_append_right _ h)

theorem covers_meet (hf : f.HasNoCondition) {start id : String} {pending : List String}
    {w : Walk σ} (h : Covers f start (id :: pending) w) :
    Covers f start ((w.meet e f id).1 ++ pending) (w.meet e f id).2 := by
  refine ⟨known_meet h.start_known, ?_, ?_⟩
  · intro a ha b hab
    rw [met_meet] at ha
    rcases List.mem_cons.1 ha with rfl | ha
    · exact .inr (List.mem_append_left _ (mem_targets_of_leads hf w hab))
    · exact known_meet (h.closed a ha b hab)
  · intro a ha hnode
    rw [met_meet] at ha
    refine mem_visited_meet.2 ?_
    rcases List.mem_cons.1 ha with rfl | ha
    · exact .inr ⟨rfl, hnode⟩
    · exact .inl (h.visited a ha hnode)

theorem covers_fromId (hf : f.HasNoCondition) (e : Engine σ) (id : String) (r : Run σ) :
    Covers f id [] (fromId e f id r) := by
  obtain ⟨n, -, hpops⟩ := pops_fromId e f id r
  refine hpops.invariant ?_ ?_ (covers_start f id r)
  · intro x pending w hx h
    have hkeep : ∀ y, y ∈ w.met ∨ y ∈ x :: pending → y ∈ w.met ∨ y ∈ pending := by
      rintro y (hy | hy)
      · exact .inl hy
      · rcases List.mem_cons.1 hy with rfl | hy
        · exact .inl hx
        · exact .inr hy
    exact ⟨hkeep _ h.start_known, fun a ha b hab => hkeep b (h.closed a ha b hab), h.visited⟩
  · intro x pending w _ h
    exact covers_meet hf h

theorem Covers.met_of_reaches {start x : String} {w : Walk σ} (h : Covers f start [] w)
    (hx : f.Reaches start x) : x ∈ w.met := by
  induction hx with
  | refl => exact h.start_known.resolve_right List.not_mem_nil
  | tail _ hlead ih => exact (h.closed _ ih _ hlead).resolve_right List.not_mem_nil

/-! ## The order -/

/-- Without conditions two walks with the same ids pending and met go the same way. -/
theorem Pops.visited_eq (hf : f.HasNoCondition) {n m : Nat} {pending : List String}
    {w w' : Walk σ} {v v' : Walk τ} (h : Pops e f n pending w w') (h' : Pops e' f m pending v v')
    (hmet : w.met = v.met) (hvisited : w.visited = v.visited) : w'.visited = v'.visited := by
  induction h generalizing m v with
  | done w =>
    cases h'
    exact hvisited
  | met hid _ ih =>
    cases h' with
    | met _ hrest => exact ih hrest hmet hvisited
    | new hnot _ => exact absurd (hmet ▸ hid) hnot
  | @new n id pending w w' hid _ ih =>
    cases h' with
    | met hin _ => exact absurd (hmet ▸ hin) hid
    | new _ hrest =>
      have hsame : (w.meet e f id).1 = (v.meet e' f id).1 ∧
          (w.meet e f id).2.visited = (v.meet e' f id).2.visited := by
        cases hn : f.node? id with
        | none =>
          refine ⟨by simp only [meet, hn], ?_⟩
          rw [visited_meet_absent w hn, visited_meet_absent v hn, hvisited]
        | some node =>
          rw [targets_eq_outgoing hf w hn, targets_eq_outgoing hf v hn, visited_meet_node w hn,
            visited_meet_node v hn, hvisited]
          exact ⟨rfl, rfl⟩
      refine ih (by rw [hsame.1]; exact hrest) ?_ hsame.2
      rw [met_meet, met_meet, hmet]

/-! ## Walks -/

/-- A walk comes to its end, visits no id twice, and visits only nodes that its start reaches;
without conditions it visits just these, in the same order whatever is outside. -/
theorem visited_fromId (f : Flow) (id : String) (e : Engine σ) (r : Run σ) :
    (∃ n ≤ f.edges.length + 1, Pops e f n [id] (start r) (fromId e f id r)) ∧
    (fromId e f id r).visited.Nodup ∧
    (∀ x ∈ (fromId e f id r).visited, f.HasNode x ∧ f.Reaches id x) ∧
    (f.HasNoCondition →
      (∀ x, x ∈ (fromId e f id r).visited ↔ f.HasNode x ∧ f.Reaches id x) ∧
      ∀ (τ : Type) (e' : Engine τ) (r' : Run τ),
        (fromId e' f id r').visited = (fromId e f id r).visited) := by
  have hreached := reached_fromId e f id r
  refine ⟨pops_fromId e f id r, hreached.nodup, hreached.visited_reached, fun hf => ⟨?_, ?_⟩⟩
  · intro x
    constructor
    · exact hreached.visited_reached x
    · rintro ⟨hnode, hreach⟩
      have hcovers := covers_fromId hf e id r
      exact hcovers.visited x (hcovers.met_of_reaches hreach) hnode
  · intro τ e' r'
    obtain ⟨n, -, hpops⟩ := pops_fromId e f id r
    obtain ⟨m, -, hpops'⟩ := pops_fromId e' f id r'
    exact hpops'.visited_eq hf hpops rfl rfl

/-- Every call fails. -/
def refusing : Engine Unit where
  collaborators :=
    { send := fun _ _ s => (.error (.raised "RuntimeError" "boom"), s)
      respond := fun _ _ s => (.error (.raised "RuntimeError" "boom"), s)
      fetch := fun _ s => (.error (.raised "RuntimeError" "boom"), s)
      sleep := fun _ s => (.error (.raised "RuntimeError" "boom"), s) }
  defaultDelay := .int 1

/-- A cycle with a target that two nodes share, and an edge to nowhere. -/
def ring : Flow :=
  let node (id kind : String) : Node := ⟨id, kind, none, none, []⟩
  let edge (source target : String) : Edge := ⟨source ++ target, source, target, none, none, []⟩
  { (default : Flow) with
    nodes := [node "a" "trigger", node "b" "send_text", node "c" "send_text", node "d" "delay"]
    edges := [edge "a" "b", edge "a" "c", edge "b" "c", edge "c" "a", edge "c" "gone"] }

theorem visited_ring :
    ring.HasNoCondition ∧
    ("c" ∈ (fromId refusing ring "a" ⟨[], (), []⟩).visited ↔
      ring.HasNode "c" ∧ ring.Reaches "a" "c") := by
  have hring : ring.HasNoCondition := by unfold Flow.HasNoCondition; decide +kernel
  exact ⟨hring, ((visited_fromId ring "a" refusing ⟨[], (), []⟩).2.2.2 hring).1 "c"⟩

end Walk
end ChatAutomation
