import ChatAutomation.Api.Envelope
import ChatAutomation.Fault
import ChatAutomation.Value.Content

/-!
# Calls and answers

What reaches the application over HTTP, and what it answers. A failure that nobody handles has an
answer of its own, which is not timed; it also takes the place of an answer that cannot be written.
-/
namespace ChatAutomation

structure Call where
  method : String
  path : String
  query : Entries String
  /-- The text of the body, if there is one. -/
  body : Option String
  deriving DecidableEq, Repr

inductive Answer.Body where
  | json (v : Value)
  | text (s : String)
  | issues (is : List Issue)
  deriving Repr

inductive Answer where
  | given (status : Nat) (body : Answer.Body)
  | failure
  deriving Repr, Inhabited

namespace Answer

def status : Answer → Nat
  | given n _ => n
  | failure => 500

def body : Answer → Body
  | given _ b => b
  | failure => .text "Internal Server Error"

/-- The answer without its body. -/
def headOnly : Answer → Answer
  | given n _ => given n (.text "")
  | failure => failure

/-- Does the answer tell how long it took? -/
def isTimed : Answer → Bool
  | given .. => true
  | failure => false

mutual

/-- Numbers that JSON cannot write become null. -/
def writable : Value → Value
  | .float x => if x.isFinite then .float x else .null
  | .list vs => .list (writableItems vs)
  | .object es => .object (writableEntries es)
  | v => v

def writableItems : List Value → List Value
  | [] => []
  | v :: vs => writable v :: writableItems vs

def writableEntries : List (String × Value) → List (String × Value)
  | [] => []
  | (k, v) :: es => (k, writable v) :: writableEntries es

end

def json (status : Nat) (v : Value) : Answer :=
  if v.isWhole then given status (.json (writable v)) else failure

/-- An answer that says no more than why. -/
def refusal (status : Nat) (detail : String) : Answer := json status (.object [("detail", .text detail)])

/-- The part of a body that an issue is about: where something is missing, what it is missing from. -/
def subject (v : Value) (i : Issue) : Value :=
  v.partAt (if i.problem = .missing then i.path.dropLast else i.path)

/-- The issues of a body, which is read from any value with the right parts. They are answered
together with the parts that they are about. -/
def unprocessable (v : Value) (is : List Issue) : Answer :=
  let inBody (i : Issue) : Issue :=
    let problem := match i.problem with
      | .notModel _ => .notDocument
      | p => p
    ⟨.name "body" :: i.path, problem⟩
  if is.all fun i => (subject v i).isWritable then given 422 (.issues (is.map inBody)) else failure

end Answer

namespace Call

/-- The JSON value of the body, if there is one that is not empty. -/
def document (c : Call) : Except Answer (Option Value) :=
  match c.body with
  | none => .ok none
  | some s =>
    if s.isEmpty then .ok none
    else
      match Json.parseBody s with
      | .ok v => .ok (some v)
      | .error (_, .at _ position) =>
        .error (.unprocessable .null [⟨[.index position], .malformedJson⟩])
      | .error _ => .error (.refusal 400 "There was an error parsing the body")

/-- Reads the body, which has to be there. -/
def read {α : Type} (c : Call) (reader : Value → Checked α) : Except Answer α := do
  match ← c.document with
  | none => throw (.unprocessable .null [⟨[], .missing⟩])
  | some v =>
    match reader v with
    | .ok a => return a
    | .issues is => throw (.unprocessable v is)

/-- The JSON value of the body, whatever it is. -/
def anyDocument (c : Call) : Except Fault Value :=
  (Json.parseBody (c.body.getD "")).mapError fun (text, cause) => .malformedJson text cause

end Call

namespace Envelope

def fields (e : Envelope) : Entries Value :=
  [("success", .bool e.success), ("message", .text e.message),
    ("data", match e.data with
      | some es => .object es
      | none => .null),
    ("timestamp", .text e.timestamp.brief), ("version", .text e.version)]

end Envelope

/-- A field of a document as it stands in a body. -/
def Field.bodyValue : Field → Value
  | .plain v => v
  | .moment t => .text t.brief

def Flow.bodyValue (f : Flow) : Value := .object (f.document.mapValues Field.bodyValue)

end ChatAutomation
