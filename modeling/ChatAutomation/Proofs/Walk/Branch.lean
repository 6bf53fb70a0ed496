import ChatAutomation.Walk

/-!
# The branch of a condition

A condition hands its result to the choice of edges through a variable that callers and earlier nodes
write, too. If its data can be read, it writes that variable before the choice is made, and the branch
depends only on what its operands show: `branch_of_payload`. If not, it fails, and a result that was
left behind makes the choice. `branch_own_iff` says that this is the only way for another's result to
count.
-/
namespace ChatAutomation

namespace Variables

/-- The variables have the same values, that of one name aside. -/
def AgreeBut (name : String) (vars vars' : Variables) : Prop :=
  ∀ k, k ≠ name → vars.get? k = vars'.get? k

theorem agreeBut_put (vars : Variables) (name : String) (v : Value) :
    AgreeBut name vars (vars.put name v) := fun _ hk => (Entries.get?_put_ne vars v hk).symm

end Variables

namespace Template

/-- Does a placeholder of the text name the variable? -/
def Mentions (name text : String) : Prop := .placeholder name.toList ∈ pieces text.toList

theorem Piece.fill_congr {p : Piece} {vars vars' : Variables}
    (h : ∀ name, p = .placeholder name →
      vars.get? (String.ofList name) = vars'.get? (String.ofList name)) :
    p.fill vars = p.fill vars' := by
  cases p with
  | literal c => rfl
  | placeholder name => simp only [Piece.fill, renderVariable, h name rfl]

/-- A text shows nothing of a variable that it does not mention. -/
theorem fill_eq_of_agreeBut {name text : String} {vars vars' : Variables}
    (hagree : vars.AgreeBut name vars') (htext : ¬ Mentions name text) :
    fill vars text = fill vars' text := by
  have hpieces : ∀ p ∈ pieces text.toList, p.fill vars = p.fill vars' := by
    intro p hp
    refine Piece.fill_congr fun cs hcs => hagree _ ?_
    rintro rfl
    exact htext (by simpa [Mentions, hcs] using hp)
  simp only [fill, List.flatMap, List.map_congr_left hpieces]

end Template

namespace Node

theorem kind?_of_isCondition {n : Node} (h : n.isCondition = true) : n.kind? = some .condition := by
  have hname : n.kindName = NodeKind.condition.name := by simpa [isCondition] using h
  rw [kind?, hname, NodeKind.ofName?_name]

/-- The operands that are read from the data of a condition do not mention the variable. -/
def OperandsSpare (name : String) (n : Node) : Prop :=
  ∀ left operator right, Payload.ofNode .condition n = .ok (.condition left operator right) →
    ¬ Template.Mentions name left ∧ ¬ Template.Mentions name right

end Node

theorem Payload.eq_condition_of_ofNode {n : Node} {p : Payload}
    (h : Payload.ofNode .condition n = .ok p) :
    ∃ left operator right, p = .condition left operator right := by
  unfold Payload.ofNode at h
  cases hdata : Payload.ofData .condition n.data with
  | issues is => simp [hdata] at h
  | ok q =>
    obtain ⟨_, right, hq, -, rfl⟩ := Checked.seq_eq_ok_iff.1 hdata
    obtain ⟨_, operator, hl, -, rfl⟩ := Checked.seq_eq_ok_iff.1 hq
    obtain ⟨left, -, rfl⟩ := Checked.map_eq_ok_iff.1 hl
    obtain rfl : _ = p := by simpa [hdata] using h
    exact ⟨left, operator, right, rfl⟩

namespace Engine
variable {σ : Type}

/-- The variables behind a condition whose data can be read. -/
theorem vars_execute_condition {e : Engine σ} {n : Node} (hn : n.isCondition = true)
    {left operator right : String}
    (hp : Payload.ofNode .condition n = .ok (.condition left operator right)) (r : Run σ) :
    (e.execute n r).2.vars = r.vars.put Variables.conditionResult
      (.bool (compareTexts (Template.fill r.vars left) (orElse operator "==")
        (Template.fill r.vars right))) := by
  simp only [execute, Node.kind?_of_isCondition hn, attempt, hp]
  rfl

/-- A condition whose data cannot be read leaves the variables as they were. -/
theorem vars_execute_of_fault {e : Engine σ} {n : Node} (hn : n.isCondition = true) {x : Fault}
    (hx : Payload.ofNode .condition n = .error x) (r : Run σ) : (e.execute n r).2.vars = r.vars := by
  simp only [execute, Node.kind?_of_isCondition hn, attempt, hx]
  rfl

/-- The edges of the flow that are followed once the node has been executed. -/
def branch (e : Engine σ) (f : Flow) (n : Node) (r : Run σ) : List Edge :=
  followedEdges n (f.outgoing n.id) (e.execute n r).2.vars

theorem branch_eq {n : Node} (hn : n.isCondition = true) (e : Engine σ) (f : Flow) (r : Run σ) :
    e.branch f n r = (f.outgoing n.id).filter fun edge =>
      edge.sourceHandle == some (chosenHandle (e.execute n r).2.vars) := by
  rw [branch, followedEdges, if_pos hn]

theorem chosenHandle_put (vars : Variables) (b : Bool) :
    chosenHandle (vars.put Variables.conditionResult (.bool b)) = if b then "true" else "false" := by
  rw [chosenHandle, Entries.get?_put_self]
  rfl

/-- The branch of a condition whose data can be read is on the side of its own comparison. -/
theorem branch_of_payload {n : Node} (hn : n.isCondition = true) {left operator right : String}
    (hp : Payload.ofNode .condition n = .ok (.condition left operator right)) (e : Engine σ)
    (f : Flow) (r : Run σ) :
    e.branch f n r = (f.outgoing n.id).filter fun edge =>
      edge.sourceHandle == some (if compareTexts (Template.fill r.vars left) (orElse operator "==")
        (Template.fill r.vars right) then "true" else "false") := by
  rw [branch_eq hn, vars_execute_condition hn hp, chosenHandle_put]

/-- The branch of a condition whose data cannot be read is on the side of the result that it finds. -/
theorem branch_of_fault {n : Node} (hn : n.isCondition = true) {x : Fault}
    (hx : Payload.ofNode .condition n = .error x) (e : Engine σ) (f : Flow) (r : Run σ) :
    e.branch f n r = (f.outgoing n.id).filter fun edge =>
      edge.sourceHandle == some (chosenHandle r.vars) := by
  rw [branch_eq hn, vars_execute_of_fault hn hx]

/-- No edge is on both sides: they are the same only if both are empty. -/
theorem filter_sides_eq_iff (edges : List Edge) :
    edges.filter (fun edge => edge.sourceHandle == some "false") =
        edges.filter (fun edge => edge.sourceHandle == some "true") ↔
      ∀ edge ∈ edges, edge.sourceHandle ≠ some "true" ∧ edge.sourceHandle ≠ some "false" := by
  constructor
  · intro hsides edge hedge
    have hmem (handle : String) : edge ∈ edges.filter (fun edge => edge.sourceHandle == some handle) ↔
        edge.sourceHandle = some handle := by
      rw [List.mem_filter, beq_iff_eq, and_iff_right hedge]
    have hboth : edge.sourceHandle = some "false" ↔ edge.sourceHandle = some "true" := by
      rw [← hmem, ← hmem, hsides]
    constructor
    · intro htrue
      simpa [htrue] using hboth.2 htrue
    · intro hfalse
      simpa [hfalse] using hboth.1 hfalse
  · intro hnone
    have hempty (handle : String) (hhandle : handle = "true" ∨ handle = "false") :
        edges.filter (fun edge => edge.sourceHandle == some handle) = [] := by
      refine List.filter_eq_nil_iff.2 fun edge hedge => ?_
      rcases hhandle with rfl | rfl
      · simpa using (hnone edge hedge).1
      · simpa using (hnone edge hedge).2
    rw [hempty "true" (.inl rfl), hempty "false" (.inr rfl)]

/-- A result that was left behind has no part in the choice of a condition's branch exactly when the
condition's data can be read, or there is no branch to choose. -/
theorem branch_own_iff [Inhabited σ] (e : Engine σ) (f : Flow) {n : Node}
    (hn : n.isCondition = true) (hspare : n.OperandsSpare Variables.conditionResult) :
    (∀ r r' : Run σ, r.vars.AgreeBut Variables.conditionResult r'.vars →
        e.branch f n r = e.branch f n r') ↔
      (∃ p, Payload.ofNode .condition n = .ok p) ∨
        ∀ edge ∈ f.outgoing n.id,
          edge.sourceHandle ≠ some "true" ∧ edge.sourceHandle ≠ some "false" := by
  cases hdata : Payload.ofNode .condition n with
  | ok p =>
    refine iff_of_true (fun r r' hagree => ?_) (.inl ⟨p, rfl⟩)
    obtain ⟨left, operator, right, rfl⟩ := Payload.eq_condition_of_ofNode hdata
    obtain ⟨hleft, hright⟩ := hspare left operator right hdata
    rw [branch_of_payload hn hdata, branch_of_payload hn hdata,
      Template.fill_eq_of_agreeBut hagree hleft, Template.fill_eq_of_agreeBut hagree hright]
  | error x =>
    simp only [branch_of_fault hn hdata, reduceCtorEq, exists_false, false_or]
    rw [← filter_sides_eq_iff]
    constructor
    · intro hsame
      -- no result at all chooses one side, and a true one the other
      exact hsame ⟨[], default, []⟩ ⟨[(Variables.conditionResult, .bool true)], default, []⟩
        (Variables.agreeBut_put [] Variables.conditionResult (.bool true))
    · intro hsides r r' _
      unfold chosenHandle
      split <;> split <;> simp only [hsides]

/-- Nothing outside is asked for anything. -/
def idle : Engine Unit where
  collaborators :=
    { send := fun _ _ s => (.ok (), s)
      respond := fun _ _ s => (.ok .null, s)
      fetch := fun _ s => (.ok ⟨200, ""⟩, s)
      sleep := fun _ s => (.ok (), s) }
  defaultDelay := .int 1

/-- A condition from its left operand and its operator. -/
def question (left : String) (operator : Value) : Node :=
  ⟨"c", "condition", some [("left", .text left), ("operator", operator), ("right", .text "ajuda")],
    none, []⟩

/-- A flow with an edge on either side of a condition. -/
def fork (n : Node) : Flow :=
  { (default : Flow) with
    id := "f1"
    nodes := [n, ⟨"yes", "delay", none, none, []⟩, ⟨"no", "delay", none, none, []⟩]
    edges := [⟨"e0", n.id, "yes", some (some "true"), none, []⟩,
      ⟨"e1", n.id, "no", some (some "false"), none, []⟩] }

/-- Does the message ask for help? -/
def asking : Node := question "\x7b\x7b_message\x7d\x7d" (.text "contains")

theorem branch_own_asking :
    asking.isCondition = true ∧ asking.OperandsSpare Variables.conditionResult ∧
      ∀ r r' : Run Unit, r.vars.AgreeBut Variables.conditionResult r'.vars →
        idle.branch (fork asking) asking r = idle.branch (fork asking) asking r' := by
  have hp : Payload.ofNode .condition asking =
      .ok (.condition "\x7b\x7b_message\x7d\x7d" "contains" "ajuda") := rfl
  have hspare : asking.OperandsSpare Variables.conditionResult := by
    intro left operator right h
    rw [hp] at h
    cases h
    unfold Template.Mentions
    decide +kernel
  exact ⟨rfl, hspare, (branch_own_iff idle (fork asking) rfl hspare).2 (.inl ⟨_, hp⟩)⟩

/-- The same with a list in place of its operator. -/
def garbled : Node := question "ajuda" (.list [])

/-- A result that the caller gave leads a condition that fails to its other side. -/
theorem branch_garbled_of_caller :
    garbled ∈ (fork garbled).nodes ∧ garbled.isCondition = true ∧
      garbled.OperandsSpare Variables.conditionResult ∧
      ¬ ∀ r r' : Run Unit, r.vars.AgreeBut Variables.conditionResult r'.vars →
        idle.branch (fork garbled) garbled r = idle.branch (fork garbled) garbled r' := by
  have hfault : Payload.ofNode .condition garbled =
      .error (.invalid "ConditionData" [⟨[.name "operator"], .notText⟩]) := rfl
  refine ⟨List.mem_cons_self, rfl, fun left operator right h => ?_, fun hsame => ?_⟩
  · rw [hfault] at h
    cases h
  · have hno : (idle.branch (fork garbled) garbled ⟨[], (), []⟩).map Edge.target = ["no"] := rfl
    have hyes : (idle.branch (fork garbled) garbled
        ⟨[(Variables.conditionResult, .bool true)], (), []⟩).map Edge.target = ["yes"] := rfl
    have heq := hsame ⟨[], (), []⟩ ⟨[(Variables.conditionResult, .bool true)], (), []⟩
      (Variables.agreeBut_put [] Variables.conditionResult (.bool true))
    rw [heq, hyes] at hno
    simp at hno

end Engine
end ChatAutomation
