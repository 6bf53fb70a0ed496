import ChatAutomation.Value
import ChatAutomation.Binary64.Written
import ChatAutomation.Text.Quoted

/-!
# Values as text

`literal` writes a value so that its kind shows, with quotes around text. `plain` writes text as it
is and everything else as its literal.
-/
namespace ChatAutomation.Value

mutual

def literal : Value → String
  | null => "None"
  | bool b => if b then "True" else "False"
  | int n => toString n
  | float x => x.text
  | text s => Text.quote s
  | list items => "[" ++ ", ".intercalate (literals items) ++ "]"
  | object entries => "\x7b" ++ ", ".intercalate (literalEntries entries) ++ "\x7d"

def literals : List Value → List String
  | [] => []
  | v :: vs => literal v :: literals vs

def literalEntries : List (String × Value) → List String
  | [] => []
  | (k, v) :: es => (Text.quote k ++ ": " ++ literal v) :: literalEntries es

end

def plain : Value → String
  | text s => s
  | v => literal v

end ChatAutomation.Value
