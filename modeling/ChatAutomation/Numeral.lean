import ChatAutomation.Binary64
import ChatAutomation.Text.Blank
import ChatAutomation.Text.Digit

/-!
# Numerals

A numeral is an optional sign, digits with an optional point, and an optional exponent. Digits of
every script count. `scan` takes the longest numeral at the front of a text and `readNumber` reads
a whole text.
-/
namespace ChatAutomation

/-- `± digits * 10 ^ exponent`. -/
structure Numeral where
  negative : Bool
  digits : Nat
  exponent : Int
  deriving DecidableEq, Repr

namespace Numeral

def value (n : Numeral) : Binary64 := .ofDecimal n.negative n.digits n.exponent

def digitsValue (ds : List Char) : Nat :=
  ds.foldl (fun acc d => 10 * acc + Text.decimalValue d) 0

/-- Takes a sign off the front. -/
def scanSign : List Char → Bool × List Char
  | '+' :: cs => (false, cs)
  | '-' :: cs => (true, cs)
  | cs => (false, cs)

/-- Takes a run of digits off the front. -/
def scanDigits (cs : List Char) : List Char × List Char :=
  (cs.takeWhile Text.isDecimal, cs.dropWhile Text.isDecimal)

/-- The digits before and after the point, at least one in all. -/
def scanMantissa (cs : List Char) : Option ((List Char × List Char) × List Char) :=
  let (whole, rest) := scanDigits cs
  match rest with
  | '.' :: rest' =>
    let (fraction, rest') := scanDigits rest'
    if whole.isEmpty && fraction.isEmpty then none else some ((whole, fraction), rest')
  | _ => if whole.isEmpty then none else some ((whole, []), rest)

/-- An exponent with at least one digit, or nothing. -/
def scanExponent (cs : List Char) : Int × List Char :=
  match cs with
  | c :: rest =>
    if c = 'e' ∨ c = 'E' then
      let (negative, rest) := scanSign rest
      let (ds, rest) := scanDigits rest
      if ds.isEmpty then (0, cs)
      else ((if negative then -(digitsValue ds : Int) else digitsValue ds), rest)
    else (0, cs)
  | [] => (0, [])

/-- The longest numeral at the front, and what follows it. -/
def scan (cs : List Char) : Option (Numeral × List Char) :=
  let (negative, rest) := scanSign cs
  (scanMantissa rest).map fun ((whole, fraction), rest) =>
    let (e, rest) := scanExponent rest
    (⟨negative, digitsValue (whole ++ fraction), e - fraction.length⟩, rest)

end Numeral

/-- The number at the front of a text behind blanks; what does not begin with one is not a number.
The one word that counts is `Infinity`. -/
def leadingNumber (s : String) : Binary64 :=
  let cs := s.toList.dropWhile Text.isBlank
  match Numeral.scan cs with
  | some (n, _) => n.value
  | none =>
    let (negative, rest) := Numeral.scanSign cs
    if "Infinity".toList.isPrefixOf rest then .infinite negative else .nan

/-- Blanks that may surround a number: of the ASCII separators only the common ones. -/
def isNumberBlank (c : Char) : Bool :=
  Text.isBlank c && !(0x1c ≤ c.toNat && c.toNat ≤ 0x1f)

def trimNumber (cs : List Char) : List Char :=
  ((cs.dropWhile isNumberBlank).reverse.dropWhile isNumberBlank).reverse

/-- Removes the underscores between digits; none where one stands elsewhere. -/
def dropUnderscores : Option Char → List Char → Option (List Char)
  | previous, [] => if previous = some '_' then none else some []
  | previous, c :: cs =>
    let afterDigit := (previous.map Text.isDecimal).getD false
    if c = '_' then if afterDigit then dropUnderscores (some c) cs else none
    else if previous = some '_' ∧ ¬ Text.isDecimal c then none
    else (dropUnderscores (some c) cs).map (c :: ·)

/-- Characters that are a number and nothing else: a numeral or, in any case, `inf`, `infinity` or
`nan`. -/
def readWhole (cs : List Char) : Option Binary64 :=
  match Numeral.scan cs with
  | some (n, []) => some n.value
  | some _ => none
  | none =>
    let (negative, rest) := Numeral.scanSign cs
    let word := String.ofList (rest.map Char.toLower)
    if word = "inf" ∨ word = "infinity" then some (.infinite negative)
    else if word = "nan" then some .nan
    else none

/-- A whole text as a number, with blanks around it and underscores between its digits. -/
def readNumber (s : String) : Option Binary64 :=
  (dropUnderscores none (trimNumber s.toList)).bind readWhole

end ChatAutomation
