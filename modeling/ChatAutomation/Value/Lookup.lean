import ChatAutomation.Fault

/-!
# Looking into values

Values that come from outside may have any form. Each way of looking into a value gives a part of
it, or the fault that the value does not have that form.
-/
namespace ChatAutomation.Value

/-- The entry of an object, or the default where there is none. -/
def entry (v : Value) (k : String) (default : Value) : Except Fault Value :=
  match v with
  | object es => .ok ((Entries.get? es k).getD default)
  | v => .error (.misused v.kindName (.method "get"))

/-- An empty object in place of what is not given. -/
def orEmpty (v : Value) : Value := if v.isGiven then v else object []

/-- The entry of an object that may be absent or not given. -/
def inner (k : String) (v : Value) : Except Fault Value := (v.entry k null).map orEmpty

/-- What comes first in a list or a text. -/
def first : Value → Except Fault Value
  | list [] => .error (.emptySequence "list")
  | list (v :: _) => .ok v
  | text s =>
    match s.toList with
    | [] => .error (.emptySequence "string")
    | c :: _ => .ok (text (String.singleton c))
  | object _ => .error .absentIndex
  | v => .error (.misused v.kindName .index)

/-- The items of a list, the keys of an object, or the characters of a text. -/
def items : Value → Except Fault (List Value)
  | list vs => .ok vs
  | object es => .ok (es.map fun e => text e.1)
  | text s => .ok (s.toList.map fun c => text (String.singleton c))
  | v => .error (.misused v.kindName .iteration)

/-- The value as text, for which a method of texts is wanted. Nothing given means no text. -/
def textFor (method : String) : Value → Except Fault String
  | text s => .ok s
  | v => if v.isGiven then .error (.misused v.kindName (.method method)) else .ok ""

end ChatAutomation.Value
