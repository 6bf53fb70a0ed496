import ChatAutomation.Trigger

/-!
# Warnings

What an editor is told about a flow that would do less than it seems to. A flow with warnings runs
all the same.
-/
namespace ChatAutomation

inductive Warning where
  | noTrigger (flow : String)
  | duplicateNode (node : String)
  | unknownKind (node kind : String)
  | danglingEdge (edge node : String)
  | missingHandle (edge node : String)
  | malformedPattern (node reason : String)
  deriving DecidableEq, Repr

namespace Warning

def code : Warning → String
  | noTrigger _ => "NO_TRIGGER"
  | duplicateNode _ => "DUPLICATE_NODE_ID"
  | unknownKind .. => "UNKNOWN_NODE_TYPE"
  | danglingEdge .. => "DANGLING_EDGE"
  | missingHandle .. => "INVALID_CONDITION_HANDLE"
  | malformedPattern .. => "INVALID_REGEX"

def message : Warning → String
  | noTrigger flow => s!"Flow '{flow}' has no trigger node and will never run"
  | duplicateNode node => s!"Node id '{node}' is used more than once"
  | unknownKind node kind => s!"Node '{node}' has unknown type '{kind}' and will be skipped"
  | danglingEdge edge node => s!"Edge '{edge}' references missing node '{node}'"
  | missingHandle edge node =>
    s!"Edge '{edge}' leaves condition node '{node}' without a true/false handle and is never followed"
  | malformedPattern node reason => s!"Trigger node '{node}' has an invalid regex: {reason}"

end Warning

namespace Flow

def nodeIds (f : Flow) : List String := f.nodes.map Node.id

/-- The later uses of ids, given those that stand before. -/
def duplicates (before : List String) : List String → List String
  | [] => []
  | id :: ids =>
    if before.contains id then id :: duplicates before ids else duplicates (id :: before) ids

def triggerWarnings (f : Flow) : List Warning :=
  if f.triggers.isEmpty then [.noTrigger f.name] else []

def kindWarnings (f : Flow) : List Warning :=
  f.nodes.filterMap fun n => if n.kind?.isNone then some (.unknownKind n.id n.kindName) else none

def danglingEnds (f : Flow) (e : Edge) : List Warning :=
  ([e.source, e.target].filter fun id => !f.nodeIds.contains id).map fun id => .danglingEdge e.id id

/-- Does an edge that leaves a condition belong to one of its sides? -/
def hasSide (e : Edge) : Bool := e.sourceHandle == some "true" || e.sourceHandle == some "false"

def handleWarnings (f : Flow) (e : Edge) : List Warning :=
  if f.nodes.any (fun n => n.isCondition && n.id == e.source) && !hasSide e then
    [.missingHandle e.id e.source]
  else []

def edgeWarnings (f : Flow) : List Warning :=
  f.edges.flatMap fun e => f.danglingEnds e ++ f.handleWarnings e

/-- The warning about the pattern of a trigger node. -/
def patternWarning (f : Flow) (n : Node) : Except Fault (List Warning) :=
  let t := Trigger.ofNode n f
  if t.kindName = TriggerKind.regex.name then
    match Trigger.pattern t.value with
    | .ok _ => .ok []
    | .error e =>
      if e.isMalformed then .ok [.malformedPattern n.id (e.message (Text.lower t.value))]
      else .error (.badPattern e)
  else .ok []

/-- All warnings about a flow. -/
def warnings (f : Flow) : Except Fault (List Warning) := do
  let patterns ← f.triggers.mapM f.patternWarning
  return f.triggerWarnings ++ (duplicates [] f.nodeIds).map .duplicateNode ++ f.kindWarnings ++
    f.edgeWarnings ++ patterns.flatten

end Flow
end ChatAutomation
