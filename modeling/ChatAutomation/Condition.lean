import ChatAutomation.Numeral
import ChatAutomation.Text.Search

/-!
# Comparisons

The operators of a condition. Equality and occurrence compare texts; order compares the numbers in
front of them, and is false where one of them is no number.
-/
namespace ChatAutomation

inductive Comparison where
  | equal
  | notEqual
  | contains
  | notContains
  | greater
  | less
  deriving DecidableEq, Repr

namespace Comparison

def ofName? : String → Option Comparison
  | "==" => some equal
  | "!=" => some notEqual
  | "contains" => some contains
  | "not_contains" => some notContains
  | ">" => some greater
  | "<" => some less
  | _ => none

def holds (op : Comparison) (left right : String) : Bool :=
  match op with
  | equal => left == right
  | notEqual => left != right
  | contains => Text.contains left right
  | notContains => !Text.contains left right
  | greater => (leadingNumber right).lt (leadingNumber left)
  | less => (leadingNumber left).lt (leadingNumber right)

end Comparison

/-- The comparison with the named operator; an unknown one never holds. -/
def compareTexts (left operator right : String) : Bool :=
  match Comparison.ofName? operator with
  | some op => op.holds left right
  | none => false

end ChatAutomation
