import ChatAutomation.Proofs.Action.Effects
import ChatAutomation.Proofs.Walk.Branch
import ChatAutomation.Proofs.Walk.Reachable

/-!
# What a run accounts for

A run executes some nodes one after the other, and a node that fails is taken down and does not end it.
`runFlow_accounted` says what follows for its report and its counters: every node that it executed is
among the visited ones and was counted once, those that failed are just the reported ones, whatever was
chosen behind a node was visited, and one status was counted, which tells how the run went.
-/
namespace ChatAutomation

namespace Sample

def isNode : Sample → Bool
  | node .. => true
  | _ => false

def isNodeError : Sample → Bool
  | node _ .error => true
  | _ => false

@[simp] theorem isNode_node (type : String) (outcome : Outcome) :
    isNode (.node type outcome) = true := rfl

@[simp] theorem isNodeError_node (type : String) (outcome : Outcome) :
    isNodeError (.node type outcome) = decide (outcome = .error) := by
  cases outcome <;> rfl

end Sample

namespace Engine
variable {σ : Type} (e : Engine σ)

/-! ## Nodes one after the other -/

instance (n : Node) (r : Run σ) : Decidable (e.Fails n r) :=
  decidable_of_iff _ (ok_execute_eq_false_iff e r n)

/-- The run behind some nodes that are executed one after the other. -/
def runAfter : List Node → Run σ → Run σ
  | [], r => r
  | n :: nodes, r => runAfter nodes (e.execute n r).2

/-- The nodes, each with the run that it finds. -/
def turns : List Node → Run σ → List (Node × Run σ)
  | [], _ => []
  | n :: nodes, r => (n, r) :: turns nodes (e.execute n r).2

/-- The results of the nodes that fail. -/
def failures (nodes : List Node) (r : Run σ) : List NodeResult :=
  ((e.turns nodes r).filter fun t => e.Fails t.1 t.2).map fun t => (e.execute t.1 t.2).1

theorem failures_cons (n : Node) (nodes : List Node) (r : Run σ) :
    e.failures (n :: nodes) r =
      (if e.Fails n r then [(e.execute n r).1] else []) ++ e.failures nodes (e.execute n r).2 := by
  by_cases h : e.Fails n r <;> simp [failures, turns, h]

/-- Each node is counted once, as an error if it fails; nothing else is counted. -/
theorem samples_runAfter (nodes : List Node) (r : Run σ) :
    (e.runAfter nodes r).samples.countP Sample.isNode =
        r.samples.countP Sample.isNode + nodes.length ∧
      (e.runAfter nodes r).samples.countP Sample.isNodeError =
        r.samples.countP Sample.isNodeError + (e.failures nodes r).length ∧
      ∀ status, (e.runAfter nodes r).samples.count (.run status) =
        r.samples.count (.run status) := by
  induction nodes generalizing r with
  | nil => simp [runAfter, failures, turns]
  | cons n nodes ih =>
    obtain ⟨type, outcome, hsamples, hfails⟩ := e.samples_execute r n
    obtain ⟨hnodes, herrors, hruns⟩ := ih (e.execute n r).2
    rw [hsamples] at hnodes herrors hruns
    refine ⟨?_, ?_, fun status => ?_⟩
    · rw [runAfter, hnodes, List.countP_append, List.length_cons]
      simp
      omega
    · rw [runAfter, herrors, List.countP_append, failures_cons]
      by_cases h : e.Fails n r
      · simp [h, hfails]
        omega
      · simp [h, hfails]
    · rw [runAfter, hruns]
      simp

end Engine

namespace Walk
variable {σ : Type} {e : Engine σ} {f : Flow}

theorem run_meet {id : String} {n : Node} (w : Walk σ) (hn : f.node? id = some n) :
    (w.meet e f id).2.run = (e.execute n w.run).2 := by
  simp only [meet, hn, visit]

theorem failed_meet {id : String} {n : Node} (w : Walk σ) (hn : f.node? id = some n) :
    (w.meet e f id).2.failed =
      w.failed ++ if e.Fails n w.run then [(e.execute n w.run).1] else [] := by
  simp only [meet, hn, visit]
  cases hok : (e.execute n w.run).1.ok with
  | false => rw [if_pos ((e.ok_execute_eq_false_iff w.run n).1 hok)]; rfl
  | true =>
    have hfails : ¬ e.Fails n w.run := by
      rw [← e.ok_execute_eq_false_iff, hok]
      decide
    rw [if_neg hfails, List.append_nil]
    rfl

theorem targets_meet {id : String} {n : Node} (w : Walk σ) (hn : f.node? id = some n) :
    (w.meet e f id).1 = (e.branch f n w.run).map Edge.target := by
  simp only [meet, hn, visit, Engine.branch, Flow.id_of_node? hn]

/-- Working off the pending ids executes the nodes: what was pending and what was chosen behind them has
been met in the end, and what was met has been visited, if it is a node. -/
structure Executed (e : Engine σ) (f : Flow) (pending : List String) (nodes : List Node)
    (w w' : Walk σ) : Prop where
  found : ∀ n ∈ nodes, f.node? n.id = some n
  visited : w'.visited = w.visited ++ nodes.map Node.id
  failed : w'.failed = w.failed ++ e.failures nodes w.run
  run : w'.run = e.runAfter nodes w.run
  kept : ∀ id ∈ w.met, id ∈ w'.met
  begun : ∀ id ∈ pending, id ∈ w'.met
  continued : ∀ t ∈ e.turns nodes w.run, ∀ edge ∈ e.branch f t.1 t.2, edge.target ∈ w'.met
  complete : ∀ id ∈ w'.met, f.HasNode id → id ∈ w.met ∨ id ∈ nodes.map Node.id

theorem executed_nil (e : Engine σ) (f : Flow) (w : Walk σ) : Executed e f [] [] w w where
  found := by simp
  visited := by simp
  failed := by simp [Engine.failures, Engine.turns]
  run := rfl
  kept _ h := h
  begun := by simp
  continued := by simp [Engine.turns]
  complete _ h _ := .inl h

variable {id : String} {pending : List String} {nodes : List Node} {w w' : Walk σ}

theorem Executed.met (h : Executed e f pending nodes w w') (hid : id ∈ w.met) :
    Executed e f (id :: pending) nodes w w' := by
  refine { h with begun := fun x hx => ?_ }
  rcases List.mem_cons.1 hx with rfl | hx
  · exact h.kept x hid
  · exact h.begun x hx

theorem Executed.kept_meet (h : Executed e f ((w.meet e f id).1 ++ pending) nodes (w.meet e f id).2 w') :
    ∀ x ∈ id :: w.met, x ∈ w'.met := by
  rw [← met_meet e f id w]
  exact h.kept

theorem Executed.begun_meet
    (h : Executed e f ((w.meet e f id).1 ++ pending) nodes (w.meet e f id).2 w') :
    ∀ x ∈ id :: pending, x ∈ w'.met := by
  intro x hx
  rcases List.mem_cons.1 hx with rfl | hx
  · exact h.kept_meet x List.mem_cons_self
  · exact h.begun x (List.mem_append_right _ hx)

theorem Executed.complete_meet
    (h : Executed e f ((w.meet e f id).1 ++ pending) nodes (w.meet e f id).2 w') :
    ∀ x ∈ w'.met, f.HasNode x → x = id ∨ x ∈ w.met ∨ x ∈ nodes.map Node.id := by
  intro x hx hnode
  have hmet := h.complete x hx hnode
  rw [met_meet, List.mem_cons, or_assoc] at hmet
  exact hmet

theorem Executed.absent (h : Executed e f ((w.meet e f id).1 ++ pending) nodes (w.meet e f id).2 w')
    (hn : f.node? id = none) : Executed e f (id :: pending) nodes w w' := by
  have hw : (w.meet e f id).2 = { w with met := id :: w.met } := by simp only [meet, hn]
  constructor
  · exact h.found
  · simpa [hw] using h.visited
  · simpa [hw] using h.failed
  · simpa [hw] using h.run
  · exact fun x hx => h.kept_meet x (List.mem_cons_of_mem _ hx)
  · exact h.begun_meet
  · simpa [hw] using h.continued
  · intro x hx hnode
    rcases h.complete_meet x hx hnode with rfl | hknown
    · exact absurd hnode (Flow.not_hasNode_of_node? hn)
    · exact hknown

theorem Executed.node (h : Executed e f ((w.meet e f id).1 ++ pending) nodes (w.meet e f id).2 w')
    {n : Node} (hn : f.node? id = some n) : Executed e f (id :: pending) (n :: nodes) w w' := by
  have hid : n.id = id := Flow.id_of_node? hn
  have hrun := run_meet (e := e) w hn
  constructor
  · intro m hm
    rcases List.mem_cons.1 hm with rfl | hm
    · rw [hid, hn]
    · exact h.found m hm
  · rw [h.visited, visited_meet_node w hn, List.map_cons, hid, List.append_assoc]
    rfl
  · rw [h.failed, failed_meet w hn, hrun, Engine.failures_cons, List.append_assoc]
  · rw [h.run, hrun]
    rfl
  · exact fun x hx => h.kept_meet x (List.mem_cons_of_mem _ hx)
  · exact h.begun_meet
  · intro t ht edge hedge
    rcases List.mem_cons.1 ht with rfl | ht
    · refine h.begun _ (List.mem_append_left _ ?_)
      rw [targets_meet w hn]
      exact List.mem_map_of_mem hedge
    · exact h.continued t (by rwa [hrun]) edge hedge
  · intro x hx hnode
    rcases h.complete_meet x hx hnode with rfl | hmet | hvisited
    · exact .inr (List.mem_map.2 ⟨n, List.mem_cons_self, hid⟩)
    · exact .inl hmet
    · exact .inr (List.mem_cons_of_mem _ hvisited)

theorem Pops.executed {k : Nat} (h : Pops e f k pending w w') :
    ∃ nodes, Executed e f pending nodes w w' := by
  induction h with
  | done w => exact ⟨[], executed_nil e f w⟩
  | met hid _ ih =>
    obtain ⟨nodes, hnodes⟩ := ih
    exact ⟨nodes, hnodes.met hid⟩
  | @new k id _ _ _ _ _ ih =>
    obtain ⟨nodes, hnodes⟩ := ih
    cases hn : f.node? id with
    | none => exact ⟨nodes, hnodes.absent hn⟩
    | some n => exact ⟨n :: nodes, hnodes.node hn⟩

end Walk

namespace Engine
variable {σ : Type} {f : Flow} {start : Option String}

/-- How a run went, by its entry and what failed. -/
def status (f : Flow) (start : Option String) (failed : List NodeResult) : RunStatus :=
  match f.entry? start, failed with
  | none, _ => .noEntry
  | some _, [] => .success
  | some _, _ :: _ => .partly

/-- The report of a run, and what it leaves, account for the nodes that it executed: these are the visited
ones, and those of them that fail the failed ones, in their order. The walk goes on behind each node, also
behind one that failed. -/
structure Accounts (e : Engine σ) (f : Flow) (start : Option String) (r : Run σ) (nodes : List Node)
    (report : RunReport) (r' : Run σ) : Prop where
  found : ∀ n ∈ nodes, f.node? n.id = some n
  visited : report.visited = nodes.map Node.id
  failed : report.failed = e.failures nodes r
  vars : r'.vars = (e.runAfter nodes r).vars
  outside : r'.outside = (e.runAfter nodes r).outside
  begun : ∀ id, f.entry? start = some id → f.HasNode id → id ∈ report.visited
  continued : ∀ t ∈ e.turns nodes r, ∀ edge ∈ e.branch f t.1 t.2,
    f.HasNode edge.target → edge.target ∈ report.visited
  executions : r'.samples.countP Sample.isNode =
    r.samples.countP Sample.isNode + report.visited.length
  errors : r'.samples.countP Sample.isNodeError =
    r.samples.countP Sample.isNodeError + report.failed.length
  statuses : ∀ s, r'.samples.count (.run s) =
    r.samples.count (.run s) + if s = status f start report.failed then 1 else 0

theorem count_run_count (r : Run σ) (s t : RunStatus) :
    (r.count (.run t)).samples.count (.run s) =
      r.samples.count (.run s) + if s = t then 1 else 0 := by
  have hsame : (Sample.run t == Sample.run s) = decide (s = t) := by
    cases s <;> cases t <;> rfl
  rw [Run.count, List.count_append, List.count_singleton, hsame]
  simp

theorem accounts_of_noEntry (e : Engine σ) (h : f.entry? start = none) (r : Run σ) :
    e.Accounts f start r [] (e.runFlow f start r).1 (e.runFlow f start r).2 := by
  simp only [runFlow, h]
  constructor
  case begun => simp [h]
  case statuses =>
    intro s
    simp only [count_run_count, status, h]
  all_goals simp [failures, turns, runAfter, Run.count, Sample.isNode, Sample.isNodeError]

/-- What the walk has met is visited, if it is a node; its counters are those of the nodes. -/
theorem accounts_of_entry (e : Engine σ) {id : String} (h : f.entry? start = some id) {r : Run σ}
    {nodes : List Node} (hw : Walk.Executed e f [id] nodes (.start r) (Walk.fromId e f id r)) :
    e.Accounts f start r nodes (e.runFlow f start r).1 (e.runFlow f start r).2 := by
  have hvisited : (Walk.fromId e f id r).visited = nodes.map Node.id := by
    rw [hw.visited]
    rfl
  have hfailed : (Walk.fromId e f id r).failed = e.failures nodes r := by
    rw [hw.failed]
    rfl
  have hrun : (Walk.fromId e f id r).run = e.runAfter nodes r := hw.run
  have hmet : ∀ x ∈ (Walk.fromId e f id r).met, f.HasNode x → x ∈ nodes.map Node.id :=
    fun x hx hnode => (hw.complete x hx hnode).resolve_left List.not_mem_nil
  obtain ⟨hnodes, herrors, hruns⟩ := e.samples_runAfter nodes r
  simp only [runFlow, h, Walk.report, hvisited, hfailed, hrun]
  constructor
  case found => exact hw.found
  case begun =>
    intro x hx hnode
    obtain rfl : id = x := Option.some.inj (h.symm.trans hx)
    exact hmet id (hw.begun id List.mem_cons_self) hnode
  case continued => exact fun t ht edge hedge hnode => hmet _ (hw.continued t ht edge hedge) hnode
  case executions => simp [Run.count, hnodes, Sample.isNode]
  case errors => simp [Run.count, herrors, Sample.isNodeError]
  case statuses =>
    intro s
    simp only [count_run_count, status, h]
    cases e.failures nodes r <;> simp [Run.count, hruns]
  all_goals rfl

/-- Every run comes to its end, whatever fails in it, and accounts for the nodes that it executed. -/
theorem runFlow_accounted (e : Engine σ) (f : Flow) (start : Option String) (r : Run σ) :
    ∃ nodes, e.Accounts f start r nodes (e.runFlow f start r).1 (e.runFlow f start r).2 := by
  cases h : f.entry? start with
  | none => exact ⟨[], e.accounts_of_noEntry h r⟩
  | some id =>
    obtain ⟨_, -, hpops⟩ := Walk.pops_fromId e f id r
    obtain ⟨nodes, hnodes⟩ := hpops.executed
    exact ⟨nodes, e.accounts_of_entry h hnodes⟩

end Engine
end ChatAutomation
