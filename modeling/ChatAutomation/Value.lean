import ChatAutomation.Binary64
import ChatAutomation.Entries

/-!
# Values

What variables, node data and documents hold: the JSON values, with whole numbers of any size kept
apart from floating point numbers.
-/
namespace ChatAutomation

inductive Value where
  | null
  | bool (b : Bool)
  | int (n : Int)
  | float (x : Binary64)
  | text (s : String)
  | list (items : List Value)
  | object (entries : List (String × Value))
  deriving Repr, Inhabited

namespace Value

/-- Empty values, zero and false do not count as given. -/
def isGiven : Value → Bool
  | null => false
  | bool b => b
  | int n => n != 0
  | float x => !x.isZero
  | text s => !s.isEmpty
  | list items => !items.isEmpty
  | object entries => !entries.isEmpty

def isNull : Value → Bool
  | null => true
  | _ => false

/-- The name that messages use for the kind of a value. -/
def kindName : Value → String
  | null => "NoneType"
  | bool _ => "bool"
  | int _ => "int"
  | float _ => "float"
  | text _ => "str"
  | list _ => "list"
  | object _ => "dict"

end Value

/-- The variables of one run. -/
abbrev Variables := Entries Value

end ChatAutomation
