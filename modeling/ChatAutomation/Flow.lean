import ChatAutomation.Flow.Edge
import ChatAutomation.Timestamp

/-!
# Flows

A flow is a graph of nodes and edges with a trigger of its own, a switch and two timestamps. It is
stored as a document, and an editor sends changes of it in part.
-/
namespace ChatAutomation

/-- A field of a stored document. -/
inductive Field where
  | plain (v : Value)
  | moment (t : Timestamp)
  deriving Repr, Inhabited

abbrev Document := Entries Field

namespace Document

/-- The fields that hold no timestamp. -/
def plainFields (d : Document) : Entries Value :=
  d.filterMap fun e => match e.2 with
    | .plain v => some (e.1, v)
    | .moment _ => none

def ofEntries (es : Entries Value) : Document := es.mapValues .plain

end Document

def Field.readMoment : Field → Checked Timestamp
  | .moment t => .ok t
  | .plain v => Timestamp.read v

structure Flow where
  id : String
  name : String
  description : String
  nodes : List Node
  edges : List Edge
  triggerType : String
  triggerValue : String
  enabled : Bool
  createdAt : Timestamp
  updatedAt : Timestamp
  deriving Repr, Inhabited

namespace Flow

def defaultName : String := "Novo Fluxo"

def defaultTriggerType : String := "keyword"

def node? (f : Flow) (id : String) : Option Node := f.nodes.find? fun n => n.id == id

def triggers (f : Flow) : List Node := f.nodes.filter Node.isTrigger

def outgoing (f : Flow) (id : String) : List Edge := f.edges.filter fun e => e.source == id

def modelName : String := "AutomationFlow"

/-- A text for which null means nothing. -/
def clearable : Value → Checked String
  | .null => .ok ""
  | v => Schema.text v

def optionalMoment (d : Document) (k : String) (now : Timestamp) : Checked Timestamp :=
  match d.get? k with
  | some f => f.readMoment.under (.name k)
  | none => .ok now

/-- A flow from a document; timestamps that are left out are now. -/
def ofDocument (now : Timestamp) (d : Document) : Checked Flow :=
  let es := d.plainFields
  Flow.mk <$> Schema.required es "id" Schema.text
    <*> Schema.optional es "name" Schema.text defaultName
    <*> Schema.optional es "description" clearable ""
    <*> Schema.optional es "nodes" (Schema.listOf Node.read) []
    <*> Schema.optional es "edges" (Schema.listOf Edge.read) []
    <*> Schema.optional es "trigger_type" Schema.text defaultTriggerType
    <*> Schema.optional es "trigger_value" clearable ""
    <*> Schema.optional es "enabled" Schema.switch false
    <*> optionalMoment d "created_at" now
    <*> optionalMoment d "updated_at" now

def read (now : Timestamp) : Value → Checked Flow :=
  Schema.model modelName fun es => ofDocument now (Document.ofEntries es)

def nodeDocuments (f : Flow) : Value := .list (f.nodes.map fun n => .object n.document)

def edgeDocuments (f : Flow) : Value := .list (f.edges.map fun e => .object e.document)

/-- The document under which a flow is stored. -/
def document (f : Flow) : Document :=
  [("id", .plain (.text f.id)), ("name", .plain (.text f.name)),
    ("description", .plain (.text f.description)),
    ("trigger_type", .plain (.text f.triggerType)),
    ("trigger_value", .plain (.text f.triggerValue)), ("enabled", .plain (.bool f.enabled)),
    ("created_at", .moment f.createdAt), ("updated_at", .moment f.updatedAt),
    ("nodes", .plain f.nodeDocuments), ("edges", .plain f.edgeDocuments)]

end Flow

/-- What an editor sends: an id, and the parts that it sets. -/
structure FlowUpdate where
  id : String
  name : Option String
  description : Option String
  nodes : Option (List Node)
  edges : Option (List Edge)
  triggerType : Option String
  triggerValue : Option String
  enabled : Option Bool
  deriving Repr, Inhabited

namespace FlowUpdate

def modelName : String := "AutomationFlowUpdate"

def ofEntries (es : Entries Value) : Checked FlowUpdate :=
  FlowUpdate.mk <$> Schema.required es "id" Schema.text
    <*> Schema.optional es "name" (Schema.nullable Schema.text) none
    <*> Schema.optional es "description" (Schema.nullable Schema.text) none
    <*> Schema.optional es "nodes" (Schema.nullable (Schema.listOf Node.read)) none
    <*> Schema.optional es "edges" (Schema.nullable (Schema.listOf Edge.read)) none
    <*> Schema.optional es "trigger_type" (Schema.nullable Schema.text) none
    <*> Schema.optional es "trigger_value" (Schema.nullable Schema.text) none
    <*> Schema.optional es "enabled" (Schema.nullable Schema.switch) none

def read : Value → Checked FlowUpdate := Schema.model modelName ofEntries

def nullable {α : Type} (write : α → Value) : Option α → Value
  | some a => write a
  | none => .null

def allFields (u : FlowUpdate) : Entries Value :=
  [("id", .text u.id), ("name", nullable .text u.name),
    ("description", nullable .text u.description),
    ("nodes", nullable (fun ns => .list (ns.map fun n => .object n.allFields)) u.nodes),
    ("edges", nullable (fun es => .list (es.map fun e => .object e.allFields)) u.edges),
    ("trigger_type", nullable .text u.triggerType),
    ("trigger_value", nullable .text u.triggerValue), ("enabled", nullable .bool u.enabled)]

end FlowUpdate
end ChatAutomation
