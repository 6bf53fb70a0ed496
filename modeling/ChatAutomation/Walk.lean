import ChatAutomation.Action
import ChatAutomation.Flow

/-!
# Running a flow

A run walks the graph of a flow depth first from its entry. A node is executed at most once. After
a condition only the edges on the side of its result are followed, after any other node all of
them, in their order; a node that fails does not stop the walk.
-/
namespace ChatAutomation

/-- What happened in a run. -/
structure RunReport where
  flowId : String
  visited : List String
  failed : List NodeResult
  deriving DecidableEq, Repr

namespace Flow

/-- The node that is asked for, or the first trigger when none is. -/
def entry? (f : Flow) (start : Option String) : Option String :=
  match start with
  | some id => if id.isEmpty then f.triggers.head?.map Node.id else some id
  | none => f.triggers.head?.map Node.id

end Flow

/-- The handle of the side that the last condition chose. -/
def chosenHandle (vars : Variables) : String :=
  if ((vars.get? Variables.conditionResult).getD .null).isGiven then "true" else "false"

/-- The edges to follow behind a node. -/
def followedEdges (n : Node) (edges : List Edge) (vars : Variables) : List Edge :=
  if n.isCondition then edges.filter fun e => e.sourceHandle == some (chosenHandle vars) else edges

/-- The state of a walk: the ids that were met, what was executed and what failed. -/
structure Walk (σ : Type) where
  met : List String
  visited : List String
  failed : List NodeResult
  run : Run σ

namespace Walk
variable {σ : Type}

def start (r : Run σ) : Walk σ := ⟨[], [], [], r⟩

/-- Executes a node and takes down its result. -/
def visit (e : Engine σ) (n : Node) (w : Walk σ) : Walk σ :=
  let (result, run) := e.execute n w.run
  { w with
    visited := w.visited ++ [n.id]
    failed := if result.ok then w.failed else w.failed ++ [result]
    run }

/-- Meets an id for the first time: executes its node, if there is one, and gives the targets to go
on with. -/
def meet (e : Engine σ) (f : Flow) (id : String) (w : Walk σ) : List String × Walk σ :=
  let w := { w with met := id :: w.met }
  match f.node? id with
  | none => ([], w)
  | some n =>
    let w := w.visit e n
    ((followedEdges n (f.outgoing id) w.run.vars).map Edge.target, w)

/-- Works off the pending ids, the next one first. Each step takes one unit of `fuel`. -/
def steps (e : Engine σ) (f : Flow) : Nat → List String → Walk σ → Walk σ
  | 0, _, w => w
  | _ + 1, [], w => w
  | fuel + 1, id :: pending, w =>
    if w.met.contains id then steps e f fuel pending w
    else
      let (targets, w) := w.meet e f id
      steps e f fuel (targets ++ pending) w

@[simp] theorem steps_nil (e : Engine σ) (f : Flow) (fuel : Nat) (w : Walk σ) :
    steps e f fuel [] w = w := by
  cases fuel <;> rfl

theorem steps_met (e : Engine σ) (f : Flow) (fuel : Nat) (id : String) (pending : List String)
    {w : Walk σ} (h : w.met.contains id = true) :
    steps e f (fuel + 1) (id :: pending) w = steps e f fuel pending w := by
  simp only [steps, h, if_true]

theorem steps_new (e : Engine σ) (f : Flow) (fuel : Nat) (id : String) (pending : List String)
    {w : Walk σ} (h : w.met.contains id = false) :
    steps e f (fuel + 1) (id :: pending) w =
      steps e f fuel ((w.meet e f id).1 ++ pending) (w.meet e f id).2 := by
  simp only [steps, h, Bool.false_eq_true, if_false]

@[simp] theorem met_visit (e : Engine σ) (n : Node) (w : Walk σ) : (w.visit e n).met = w.met := rfl

@[simp] theorem met_meet (e : Engine σ) (f : Flow) (id : String) (w : Walk σ) :
    (w.meet e f id).2.met = id :: w.met := by
  unfold meet
  split <;> rfl

/-- The walk from an id. An edge is put up once at most, which bounds the steps. -/
def fromId (e : Engine σ) (f : Flow) (id : String) (r : Run σ) : Walk σ :=
  steps e f (f.edges.length + 1) [id] (start r)

def report (f : Flow) (w : Walk σ) : RunReport := ⟨f.id, w.visited, w.failed⟩

end Walk

namespace Engine
variable {σ : Type}

/-- Runs a flow. -/
def runFlow (e : Engine σ) (f : Flow) (start : Option String) (r : Run σ) : RunReport × Run σ :=
  match f.entry? start with
  | none => (⟨f.id, [], []⟩, r.count (.run .noEntry))
  | some id =>
    let w := Walk.fromId e f id r
    let status := if w.failed.isEmpty then RunStatus.success else .partly
    (w.report f, (w.run.count .runDuration).count (.run status))

end Engine
end ChatAutomation
