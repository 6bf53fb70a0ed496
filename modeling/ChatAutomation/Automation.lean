import ChatAutomation.Store
import ChatAutomation.Trigger
import ChatAutomation.Walk

/-!
# Automation

What an editor does with flows, and what a message does with them. Saving creates a flow or merges
an update into the stored one. A message is matched against the flows that are switched on; a store
that is out of reach counts as one without flows.
-/
namespace ChatAutomation

namespace FlowUpdate

def givenOr (s : Option String) (default : String) : String :=
  match s with
  | some s => if s.isEmpty then default else s
  | none => default

/-- The flow that an update creates. -/
def create (now : Timestamp) (u : FlowUpdate) : Flow where
  id := u.id
  name := givenOr u.name Flow.defaultName
  description := u.description.getD ""
  nodes := u.nodes.getD []
  edges := u.edges.getD []
  triggerType := givenOr u.triggerType Flow.defaultTriggerType
  triggerValue := u.triggerValue.getD ""
  enabled := u.enabled.getD false
  createdAt := now
  updatedAt := now

/-- A flow with an update merged into it. Names and kinds are kept where the update gives none or an
empty one, other texts where it gives none; the graph and the switch are always written. -/
def merge (now : Timestamp) (u : FlowUpdate) (f : Flow) : Flow where
  id := f.id
  name := givenOr u.name f.name
  description := u.description.getD f.description
  nodes := u.nodes.getD []
  edges := u.edges.getD []
  triggerType := givenOr u.triggerType f.triggerType
  triggerValue := u.triggerValue.getD f.triggerValue
  enabled := u.enabled.getD false
  createdAt := f.createdAt
  updatedAt := now

end FlowUpdate

namespace Flow

/-- The fields that an update writes; the id and the times are not among them. -/
def changes (f : Flow) : Document :=
  f.document.filter fun e => !(["id", "created_at", "updated_at"].contains e.1)

end Flow

/-- A write to the store that a save comes down to. -/
inductive Write where
  | insert (f : Flow)
  | update (id : String) (changes : Document)

namespace Write

/-- What to write for an update, by the flow that is stored under its id. -/
def plan (now : Timestamp) (u : FlowUpdate) : Option Flow → Write
  | none => insert (u.create now)
  | some f => update f.id (u.merge now f).changes

def apply (now : Timestamp) (w : Write) (s : Store) : Except Fault (Option Flow × Store) :=
  match w with
  | insert f => (s.insert f).map fun (f, s) => (some f, s)
  | update id changes => s.update now id changes

end Write

namespace Automation

/-- Creates or updates a flow; there is none to give if it went away in between. -/
def save (now : Timestamp) (u : FlowUpdate) (s : Store) : Except Fault (Option Flow × Store) := do
  let stored ← s.get now u.id
  (Write.plan now u stored).apply now s

/-- The first match of a message in the flows that are switched on. -/
def match? (now : Timestamp) (m : Incoming) (s : Store) : Except Fault (Option TriggerMatch) :=
  match s.listEnabled now with
  | .ok flows => Flow.firstMatch m flows
  | .error _ => .ok none

/-- Runs a flow for a message from a chat. -/
def execute {σ : Type} (now : Timestamp) (e : Engine σ) (f : Flow) (jid body : Value)
    (start : Option String) (initial : Variables) (outside : σ) : RunReport × Run σ :=
  e.runFlow f start ⟨Variables.seed jid body (.int now.millis) initial, outside, []⟩

end Automation
end ChatAutomation
