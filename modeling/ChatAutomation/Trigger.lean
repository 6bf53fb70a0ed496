import ChatAutomation.Fault
import ChatAutomation.Flow
import ChatAutomation.Metric
import ChatAutomation.Pattern.Search
import ChatAutomation.Text.Blank
import ChatAutomation.Value.Written

/-!
# Triggers

A trigger decides whether an incoming message starts a flow. Texts are compared in lower case, and
blanks around the message do not count.
-/
namespace ChatAutomation

/-- What triggers look at in a message. -/
structure Incoming where
  body : String
  isFirst : Bool
  hasMedia : Bool
  deriving DecidableEq, Repr

inductive TriggerKind where
  | keyword
  | exact
  | startsWith
  | regex
  | anyMessage
  | firstMessage
  | media
  deriving DecidableEq, Repr

namespace TriggerKind

def name : TriggerKind → String
  | keyword => "keyword"
  | exact => "exact"
  | startsWith => "starts_with"
  | regex => "regex"
  | anyMessage => "any_message"
  | firstMessage => "first_message"
  | media => "media"

def all : List TriggerKind :=
  [keyword, exact, startsWith, regex, anyMessage, firstMessage, media]

def ofName? (s : String) : Option TriggerKind := all.find? fun k => k.name == s

end TriggerKind

/-- A rule: the name of its kind, which need not be a known one, and what it looks for. -/
structure Trigger where
  kindName : String
  value : String
  deriving DecidableEq, Repr

namespace Trigger

def kind? (t : Trigger) : Option TriggerKind := TriggerKind.ofName? t.kindName

/-- What a node's data say under a key, or the text that the flow gives instead. -/
def ownOr (n : Node) (k : String) (default : String) : String :=
  match n.data.get? k with
  | some v => if v.isGiven then v.plain else default
  | none => default

/-- The trigger of a node. What the node leaves open is taken from its flow. -/
def ofNode (n : Node) (f : Flow) : Trigger where
  kindName := ownOr n "trigger_type"
    (if f.triggerType.isEmpty then TriggerKind.keyword.name else f.triggerType)
  value := ownOr n "trigger_value" f.triggerValue

/-- A message's text as triggers compare it. -/
def subject (body : String) : String := Text.trim (Text.lower body)

/-- The pattern that a value stands for. -/
def pattern (value : String) : Except Pattern.Error Pattern.Compiled :=
  Pattern.compile true (Text.lower value)

/-- Does a pattern occur in a text? One that is malformed occurs nowhere. -/
def patternOccurs (value text : String) : Except Fault Bool :=
  match pattern value with
  | .ok p => (p.search text).mapError .badPattern
  | .error e => if e.isMalformed then .ok false else .error (.badPattern e)

/-- Does a message satisfy the trigger? An unknown kind is never satisfied. -/
def holds (t : Trigger) (m : Incoming) : Except Fault Bool :=
  let text := subject m.body
  let value := Text.lower t.value
  match t.kind? with
  | some .keyword => .ok (Text.contains text value)
  | some .exact => .ok (text == value)
  | some .startsWith => .ok (Text.beginsWith text value)
  | some .regex => patternOccurs t.value text
  | some .anyMessage => .ok true
  | some .firstMessage => .ok m.isFirst
  | some .media => .ok m.hasMedia
  | none => .ok false

end Trigger

/-- The flow that a message starts, with the trigger node that it satisfies. -/
structure TriggerMatch where
  flow : Flow
  node : Node
  deriving Repr

namespace TriggerMatch

def trigger (m : TriggerMatch) : Trigger := .ofNode m.node m.flow

def sample (m : TriggerMatch) : Sample := .triggerMatch m.trigger.kindName

end TriggerMatch

namespace Flow

/-- The first of some nodes whose trigger holds. -/
def firstHolding (f : Flow) (m : Incoming) : List Node → Except Fault (Option TriggerMatch)
  | [] => .ok none
  | n :: ns => do
    if ← (Trigger.ofNode n f).holds m then return some ⟨f, n⟩
    else firstHolding f m ns

/-- The match of a message in one flow; a flow that is switched off has none. -/
def match? (f : Flow) (m : Incoming) : Except Fault (Option TriggerMatch) :=
  if f.enabled then f.firstHolding m f.triggers else .ok none

/-- The first match of a message in some flows. -/
def firstMatch (m : Incoming) : List Flow → Except Fault (Option TriggerMatch)
  | [] => .ok none
  | f :: fs => do
    match ← f.match? m with
    | some hit => return some hit
    | none => firstMatch m fs

end Flow
end ChatAutomation
