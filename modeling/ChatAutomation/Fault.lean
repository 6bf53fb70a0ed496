import ChatAutomation.Json.Reader
import ChatAutomation.Pattern.Error
import ChatAutomation.Schema

/-!
# Faults

What can make the execution of a node or a call fail. Each fault has a kind and a text; a report
joins the two.
-/
namespace ChatAutomation

/-- A use of a value that not every kind of value allows. -/
inductive Use where
  | method (name : String)
  | iteration
  | index
  | hashing
  deriving DecidableEq, Repr

/-- Why a value of the named kind does not allow a use. -/
def Use.refusal (kind : String) : Use → String
  | method name => s!"'{kind}' object has no attribute '{name}'"
  | iteration => s!"'{kind}' object is not iterable"
  | index => s!"'{kind}' object is not subscriptable"
  | hashing => s!"unhashable type: '{kind}'"

inductive Fault where
  /-- Data that does not have the form of the named model. -/
  | invalid (model : String) (issues : List Issue)
  /-- A text that should be JSON and is not. -/
  | malformedJson (document : String) (cause : Json.Malformed)
  | headersNotObject
  | hugeDelay
  /-- A pattern with a fault that is none of syntax. -/
  | badPattern (cause : Pattern.Error)
  /-- A value of a kind that does not allow what is done with it. -/
  | misused (kind : String) (use : Use)
  | emptySequence (kind : String)
  | absentIndex
  | duplicateKey
  | circuitOpen (name : String)
  | notSendable (model : String)
  | sendRefused (phone : String) (status : Int) (detail : String)
  /-- A failure of the connection, after which another attempt may succeed. -/
  | connection (kind : String) (text : String)
  /-- Any other failure of a collaborator, or an answer that does not have the expected form. -/
  | raised (kind : String) (text : String)
  deriving DecidableEq, Repr

namespace Fault

def kind : Fault → String
  | invalid .. => "ValidationError"
  | malformedJson _ (.at ..) => "JSONDecodeError"
  | malformedJson _ (.undecodable _) => "UnicodeDecodeError"
  | malformedJson _ (.hugeInteger _) => "ValueError"
  | malformedJson _ .deepList | malformedJson _ .deepObject => "RecursionError"
  | headersNotObject => "ValueError"
  | hugeDelay => "OverflowError"
  | badPattern cause => cause.kindName
  | misused _ (.method _) => "AttributeError"
  | misused .. => "TypeError"
  | emptySequence _ => "IndexError"
  | absentIndex => "KeyError"
  | duplicateKey => "DuplicateKeyError"
  | notSendable _ => "ValueError"
  | circuitOpen _ => "CircuitOpenError"
  | sendRefused .. => "MessageSendError"
  | connection k _ | raised k _ => k

def stepText : Step → String
  | .name n => n
  | .index n => toString n

def issueText (i : Issue) : String :=
  ".".intercalate (i.path.map stepText) ++ "\n  " ++ i.problem.message ++
    " [type=" ++ i.problem.code ++ "]"

def text : Fault → String
  | invalid model issues =>
    let noun := if issues.length = 1 then "validation error" else "validation errors"
    "\n".intercalate (s!"{issues.length} {noun} for {model}" :: issues.map issueText)
  | malformedJson document cause => cause.message document
  | headersNotObject => "http_request headers must be a JSON object"
  | hugeDelay => "int too large to convert to float"
  | badPattern cause => cause.message ""
  | misused kind use => use.refusal kind
  | emptySequence kind => s!"{kind} index out of range"
  | absentIndex => "0"
  | duplicateKey => "E11000 duplicate key error"
  | notSendable model => s!"Unsupported outbound message: {model}"
  | circuitOpen name => s!"Circuit breaker is OPEN for {name}"
  | sendRefused phone status detail => s!"WhatsApp send to {phone} failed: {status} - {detail}"
  | connection _ t | raised _ t => t

def report (f : Fault) : String := f.kind ++ ": " ++ f.text

end Fault
end ChatAutomation
