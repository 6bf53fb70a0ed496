import ChatAutomation.Schema

/-!
# Nodes

A node of a flow has an id, the name of its kind, data and a place in the editor. Whatever else a
document holds for it is kept, and it is written back with the keys that were given.
-/
namespace ChatAutomation

/-- What a node does. -/
inductive NodeKind where
  | trigger
  | sendText
  | sendImage
  | sendAudio
  | sendVideo
  | sendPoll
  | sendButtons
  | aiResponse
  | delay
  | condition
  | setVariable
  | httpRequest
  deriving DecidableEq, Repr

namespace NodeKind

def name : NodeKind → String
  | trigger => "trigger"
  | sendText => "send_text"
  | sendImage => "send_image"
  | sendAudio => "send_audio"
  | sendVideo => "send_video"
  | sendPoll => "send_poll"
  | sendButtons => "send_buttons"
  | aiResponse => "ai_response"
  | delay => "delay"
  | condition => "condition"
  | setVariable => "set_variable"
  | httpRequest => "http_request"

def all : List NodeKind :=
  [trigger, sendText, sendImage, sendAudio, sendVideo, sendPoll, sendButtons, aiResponse, delay,
    condition, setVariable, httpRequest]

def ofName? (s : String) : Option NodeKind := all.find? fun k => k.name == s

theorem ofName?_name (k : NodeKind) : ofName? k.name = some k := by
  cases k <;> decide +kernel

theorem name_of_ofName? {s : String} {k : NodeKind} (h : ofName? s = some k) : k.name = s := by
  simpa using List.find?_some h

end NodeKind

structure Node where
  id : String
  /-- The name of the kind; it need not be a known one. -/
  kindName : String
  givenData : Option (Entries Value)
  givenPosition : Option (Option (Entries Value))
  extra : Entries Value
  deriving Repr, Inhabited

namespace Node

def kind? (n : Node) : Option NodeKind := NodeKind.ofName? n.kindName

def data (n : Node) : Entries Value := n.givenData.getD []

def position (n : Node) : Option (Entries Value) := n.givenPosition.join

def isTrigger (n : Node) : Bool := n.kindName == NodeKind.trigger.name

def isCondition (n : Node) : Bool := n.kindName == NodeKind.condition.name

def ownKeys : List String := ["id", "type", "data", "position"]

def modelName : String := "FlowNode"

/-- A part that may be left out, with the choice remembered. -/
def remembered {α : Type} (es : Entries Value) (k : String) (read : Value → Checked α) :
    Checked (Option α) :=
  Schema.optional es k (fun v => (read v).map some) none

def ofEntries (es : Entries Value) : Checked Node :=
  Node.mk <$> Schema.required es "id" Schema.text
    <*> Schema.required es "type" Schema.text
    <*> remembered es "data" Schema.object
    <*> remembered es "position" (Schema.nullable Schema.object)
    <*> pure (es.filter fun e => !ownKeys.contains e.1)

def read : Value → Checked Node := Schema.model modelName ofEntries

def nullableObject : Option (Entries Value) → Value
  | some es => .object es
  | none => .null

/-- The keys that were given, the node's own ones first. -/
def document (n : Node) : Entries Value :=
  [("id", .text n.id), ("type", .text n.kindName)] ++
    (n.givenData.map fun es => ("data", Value.object es)).toList ++
    (n.givenPosition.map fun p => ("position", nullableObject p)).toList ++ n.extra

/-- All keys, whether they were given or not. -/
def allFields (n : Node) : Entries Value :=
  [("id", .text n.id), ("type", .text n.kindName), ("data", .object n.data),
    ("position", nullableObject n.position)] ++ n.extra

end Node
end ChatAutomation
