import ChatAutomation.Fault
import ChatAutomation.Template

/-!
# Headers of a request

Headers are given as an object whose values are templates, or as a template of the text of such an
object.
-/
namespace ChatAutomation.Headers

/-- A header's value that was read from text; text stays as it is. -/
def written (v : Value) : String := if v.isNull then "" else v.plain

def ofEntries (es : Entries Value) (vars : Variables) : Entries String :=
  es.mapValues fun v => Template.interpolate v vars

/-- The headers that a filled in text holds. -/
def ofText (document : String) : Except Fault (Entries String) :=
  match Json.parse document with
  | .ok (.object es) => .ok (Entries.mapValues written es)
  | .ok _ => .error .headersNotObject
  | .error cause => .error (.malformedJson document cause)

def build (raw : Value) (vars : Variables) : Except Fault (Entries String) :=
  if !raw.isGiven then .ok []
  else
    match raw with
    | .object es => .ok (ofEntries es vars)
    | v => ofText (Template.interpolate v vars)

end ChatAutomation.Headers
