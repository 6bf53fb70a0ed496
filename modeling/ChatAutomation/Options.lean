import ChatAutomation.Value.Written
import ChatAutomation.Text.Blank
import ChatAutomation.Text.Search

/-!
# Options of a poll

Options are given as a list or one on each line. Blanks around an option are dropped, and so is an
option of which nothing is left.
-/
namespace ChatAutomation.Options

/-- The options as they are written. -/
def raw : Value → List String
  | .list items => items.map fun v => if v.isNull then "" else v.plain
  | v => Text.splitAt '\n' (if v.isGiven then v.plain else "")

def trimmed (options : List String) : List String :=
  (options.map Text.trim).filter fun s => !s.isEmpty

def split (v : Value) : List String := trimmed (raw v)

end ChatAutomation.Options
