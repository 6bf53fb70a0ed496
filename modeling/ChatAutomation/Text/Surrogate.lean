/-!
# Lone surrogates

Half of a surrogate pair is no character, yet escapes may name one on its own. A text holds a
stand-in for it, the character with the same last digits in a plane that has no characters yet.
-/
namespace ChatAutomation.Text

/-- Is the code one of a half of a pair? -/
def isSurrogate (n : Nat) : Bool := 0xD800 ≤ n && n < 0xE000

/-- The distance from a half of a pair to its stand-in. -/
def standInOffset : Nat := 0x50000

/-- The character with a code, or the stand-in for it. -/
def charOfCode (n : Nat) : Char :=
  Char.ofNat (if isSurrogate n then n + standInOffset else n)

/-- Joins the pairs of code units that stand for one character. -/
def joinUnits : List Nat → List Char
  | [] => []
  | [n] => [charOfCode n]
  | n :: m :: ns =>
    if 0xD800 ≤ n ∧ n < 0xDC00 ∧ 0xDC00 ≤ m ∧ m < 0xE000 then
      Char.ofNat (0x10000 + (n - 0xD800) * 0x400 + (m - 0xDC00)) :: joinUnits ns
    else charOfCode n :: joinUnits (m :: ns)

/-- The lone half that a character stands for. -/
def loneHalf? (c : Char) : Option Nat :=
  if standInOffset ≤ c.toNat && isSurrogate (c.toNat - standInOffset) then
    some (c.toNat - standInOffset)
  else none

/-- The code of a character, or of the half that it stands for. -/
def code (c : Char) : Nat := (loneHalf? c).getD c.toNat

/-- Is every character of the text one of its own? -/
def isWhole (s : String) : Bool := s.toList.all fun c => (loneHalf? c).isNone

end ChatAutomation.Text
