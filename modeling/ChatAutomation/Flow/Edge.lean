import ChatAutomation.Flow.Node

/-!
# Edges

An edge leads from a node to a node. The handle tells which side of a condition it leaves from.
-/
namespace ChatAutomation

structure Edge where
  id : String
  source : String
  target : String
  givenHandle : Option (Option String)
  givenLabel : Option (Option String)
  extra : Entries Value
  deriving Repr, Inhabited

namespace Edge

def sourceHandle (e : Edge) : Option String := e.givenHandle.join

def label (e : Edge) : Option String := e.givenLabel.join

/-- The key of the handle in documents, and the one that is understood in its place. -/
def handleKey : String := "sourceHandle"

def handleField : String := "source_handle"

def ofEntries (es : Entries Value) : Checked Edge :=
  let handle := if es.has handleKey then handleKey else handleField
  let own := ["id", "source", "target", handle, "label"]
  Edge.mk <$> Schema.required es "id" Schema.text
    <*> Schema.required es "source" Schema.text
    <*> Schema.required es "target" Schema.text
    <*> Node.remembered es handle (Schema.nullable Schema.text)
    <*> Node.remembered es "label" (Schema.nullable Schema.text)
    <*> pure (es.filter fun e => !own.contains e.1)

def read : Value → Checked Edge := Schema.model "FlowEdge" ofEntries

def nullableText : Option String → Value
  | some s => .text s
  | none => .null

def document (e : Edge) : Entries Value :=
  [("id", .text e.id), ("source", .text e.source), ("target", .text e.target)] ++
    (e.givenHandle.map fun h => (handleKey, nullableText h)).toList ++
    (e.givenLabel.map fun l => ("label", nullableText l)).toList ++ e.extra

/-- All fields by name; an extra key of the same name stands in a field's place. -/
def allFields (e : Edge) : Entries Value :=
  Entries.putAll [("id", .text e.id), ("source", .text e.source), ("target", .text e.target),
    (handleField, nullableText e.sourceHandle), ("label", nullableText e.label)] e.extra

end Edge
end ChatAutomation
