import ChatAutomation.Proofs.Walk.Account

/-!
# The course of a run

A report names the nodes that a run executed, one after the other, beginning with its entry. So the
report fixes the course of the run: its nodes, each with the run that it found, and the edges that
were followed behind them. An edge that leaves no condition is followed exactly when its source was
visited.
-/
namespace ChatAutomation

namespace Flow

theorem entry?_of_ne_empty {id : String} (h : id ≠ "") (f : Flow) : f.entry? (some id) = some id := by
  have hempty : id.isEmpty = false := by simpa using h
  unfold entry?
  simp only [hempty, Bool.false_eq_true, if_false]

theorem entry?_empty (f : Flow) : f.entry? (some "") = f.triggers.head?.map Node.id := rfl

/-- A flow that can be entered at its first trigger has an entry for every start that is a node. -/
theorem exists_entry {f : Flow} (h : f.triggers ≠ []) {start : Option String}
    (hstart : ∀ id, start = some id → f.HasNode id) :
    ∃ id, f.entry? start = some id ∧ f.HasNode id := by
  have hfirst : ∃ id, f.triggers.head?.map Node.id = some id ∧ f.HasNode id := by
    obtain ⟨n, ns, hns⟩ := List.exists_cons_of_ne_nil h
    have hn : n ∈ f.triggers := hns ▸ List.mem_cons_self
    exact ⟨n.id, by rw [hns]; rfl, n, List.mem_of_mem_filter hn, rfl⟩
  unfold entry?
  split
  · rename_i id
    split
    · exact hfirst
    · exact ⟨id, rfl, hstart id rfl⟩
  · exact hfirst

end Flow

/-- The nodes of a flow that a report names. -/
def RunReport.nodes (f : Flow) (report : RunReport) : List Node := report.visited.filterMap f.node?

namespace Engine
variable {σ : Type} {e : Engine σ} {f : Flow} {start : Option String} {r r' : Run σ}

/-! ## What is executed -/

/-- The nodes that a run executes, in their order. -/
def executed (e : Engine σ) (f : Flow) (start : Option String) (r : Run σ) : List Node :=
  (e.runFlow f start r).1.nodes f

theorem Accounts.nodes_eq {nodes : List Node} {report : RunReport}
    (h : e.Accounts f start r nodes report r') : report.nodes f = nodes := by
  rw [RunReport.nodes, h.visited, List.filterMap_map]
  have hfound : ∀ n ∈ nodes, (f.node? ∘ Node.id) n = some n := h.found
  rw [List.filterMap_congr hfound, List.filterMap_some]

/-- A run accounts for the nodes that its report names. -/
theorem accounts_executed (e : Engine σ) (f : Flow) (start : Option String) (r : Run σ) :
    e.Accounts f start r (e.executed f start r) (e.runFlow f start r).1 (e.runFlow f start r).2 := by
  have haccounts : ∃ nodes,
      e.Accounts f start r nodes (e.runFlow f start r).1 (e.runFlow f start r).2 := by
    cases h : f.entry? start with
    | none => exact ⟨[], e.accounts_of_noEntry h r⟩
    | some id =>
      obtain ⟨_, -, hpops⟩ := Walk.pops_fromId e f id r
      obtain ⟨nodes, hnodes⟩ := hpops.executed
      exact ⟨nodes, e.accounts_of_entry h hnodes⟩
  obtain ⟨nodes, hnodes⟩ := haccounts
  rwa [executed, hnodes.nodes_eq]

/-- The entry is executed first. -/
theorem head?_executed {id : String} {n : Node} (h : f.entry? start = some id)
    (hn : f.node? id = some n) (e : Engine σ) (r : Run σ) :
    (e.executed f start r).head? = some n := by
  obtain ⟨_, -, hpops⟩ := Walk.pops_fromId e f id r
  cases hpops with
  | met hmet _ => exact absurd hmet List.not_mem_nil
  | new _ rest =>
    obtain ⟨nodes, hnodes⟩ := rest.executed
    have haccounts := e.accounts_of_entry h (hnodes.node hn)
    rw [executed, haccounts.nodes_eq]
    rfl

/-- A run that is started with the id of a trigger begins at it just if that is its entry and the id of no
node before. -/
theorem head?_executed_eq_iff {n : Node} (hn : n ∈ f.triggers) (e : Engine σ) (r : Run σ) :
    (e.executed f (some n.id) r).head? = some n ↔
      f.entry? (some n.id) = some n.id ∧ f.node? n.id = some n := by
  have hstart : ∀ id, some n.id = some id → f.HasNode id := by
    rintro _ ⟨⟩
    exact ⟨n, List.mem_of_mem_filter hn, rfl⟩
  obtain ⟨id, hentry, hid⟩ := Flow.exists_entry (List.ne_nil_of_mem hn) hstart
  obtain ⟨first, hfirst⟩ := hid.exists_node?
  rw [head?_executed hentry hfirst, hentry]
  constructor
  · intro h
    cases h
    have hid : n.id = id := Flow.id_of_node? hfirst
    exact ⟨congrArg some hid.symm, hid ▸ hfirst⟩
  · rintro ⟨hid, hnode⟩
    cases hid
    rw [← hfirst, hnode]

theorem mem_executed_iff {n : Node} :
    n ∈ e.executed f start r ↔
      f.node? n.id = some n ∧ n.id ∈ (e.runFlow f start r).1.visited := by
  have haccounts := e.accounts_executed f start r
  constructor
  · intro h
    refine ⟨haccounts.found n h, ?_⟩
    rw [haccounts.visited]
    exact List.mem_map_of_mem h
  · rintro ⟨hn, hid⟩
    exact List.mem_filterMap.2 ⟨n.id, hid, hn⟩

theorem mem_nodes_of_mem_executed {n : Node} (h : n ∈ e.executed f start r) : n ∈ f.nodes :=
  Flow.mem_of_node? (mem_executed_iff.1 h).1

/-! ## What is followed -/

theorem map_fst_turns (e : Engine σ) (nodes : List Node) (r : Run σ) :
    (e.turns nodes r).map Prod.fst = nodes := by
  induction nodes generalizing r with
  | nil => rfl
  | cons n nodes ih => rw [turns, List.map_cons, ih]

/-- The nodes that a run executes, each with the run that it finds. -/
def course (e : Engine σ) (f : Flow) (start : Option String) (r : Run σ) : List (Node × Run σ) :=
  e.turns (e.executed f start r) r

theorem map_fst_course (e : Engine σ) (f : Flow) (start : Option String) (r : Run σ) :
    (e.course f start r).map Prod.fst = e.executed f start r := e.map_fst_turns _ r

theorem mem_executed_of_mem_course {t : Node × Run σ} (h : t ∈ e.course f start r) :
    t.1 ∈ e.executed f start r := by
  rw [← map_fst_course]
  exact List.mem_map_of_mem h

theorem exists_mem_course {n : Node} (h : n ∈ e.executed f start r) :
    ∃ r', (n, r') ∈ e.course f start r := by
  rw [← map_fst_course] at h
  obtain ⟨⟨_, r'⟩, ht, rfl⟩ := List.mem_map.1 h
  exact ⟨r', ht⟩

/-- The edges that a run follows, as the nodes choose them that it executes. -/
def followed (e : Engine σ) (f : Flow) (start : Option String) (r : Run σ) : List Edge :=
  (e.course f start r).flatMap fun t => e.branch f t.1 t.2

theorem mem_followed_iff {edge : Edge} :
    edge ∈ e.followed f start r ↔ ∃ t ∈ e.course f start r, edge ∈ e.branch f t.1 t.2 :=
  List.mem_flatMap

theorem mem_outgoing_of_mem_branch {n : Node} {edge : Edge} (h : edge ∈ e.branch f n r) :
    edge ∈ f.outgoing n.id := Walk.mem_of_mem_followedEdges h

theorem branch_of_not_condition {n : Node} (hn : n.isCondition = false) (e : Engine σ) (f : Flow)
    (r : Run σ) : e.branch f n r = f.outgoing n.id := Walk.followedEdges_of_not_condition hn _ _

/-- What a followed edge leads to is visited, if it is a node. -/
theorem visited_of_mem_followed {edge : Edge} (h : edge ∈ e.followed f start r)
    (hnode : f.HasNode edge.target) : edge.target ∈ (e.runFlow f start r).1.visited := by
  obtain ⟨t, ht, hedge⟩ := mem_followed_iff.1 h
  exact (e.accounts_executed f start r).continued t ht edge hedge hnode

/-- All edges are followed that leave an executed node which is no condition. -/
theorem mem_followed_of_not_condition {n : Node} (hn : n ∈ e.executed f start r)
    (hcondition : n.isCondition = false) {edge : Edge} (hedge : edge ∈ f.outgoing n.id) :
    edge ∈ e.followed f start r := by
  obtain ⟨r', ht⟩ := exists_mem_course hn
  refine mem_followed_iff.2 ⟨_, ht, ?_⟩
  rwa [branch_of_not_condition hcondition]

end Engine
end ChatAutomation
