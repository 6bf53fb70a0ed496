import ChatAutomation.Binary64.Shortest

/-!
# Numbers as text

A finite number is written with the fewest digits that read back, positionally when the leading
digit stands at most sixteen places before or four places after the point, and otherwise with an
exponent of at least two digits.
-/
namespace ChatAutomation.Binary64

/-- The digits of `n`, padded with zeros on the left to `width`. -/
def padded (width n : Nat) : String :=
  let s := toString n
  "".pushn '0' (width - s.length) ++ s

def zeros (n : Nat) : String := "".pushn '0' n

/-- Digits `d₁d₂…` with the point after `point` of them. -/
def Decimal.positional (d : Decimal) : String :=
  let s := toString d.digits
  if d.point ≤ 0 then "0." ++ zeros (-d.point).toNat ++ s
  else
    let p := d.point.toNat
    if d.count ≤ p then s ++ zeros (p - d.count) ++ ".0"
    else String.ofList (s.toList.take p) ++ "." ++ String.ofList (s.toList.drop p)

/-- One digit before the point, and a signed exponent. -/
def Decimal.scientific (d : Decimal) : String :=
  let s := toString d.digits
  let mantissa :=
    if d.count ≤ 1 then s
    else String.ofList (s.toList.take 1) ++ "." ++ String.ofList (s.toList.drop 1)
  let e := d.point - 1
  mantissa ++ (if e < 0 then "e-" else "e+") ++ padded 2 e.natAbs

def Decimal.text (d : Decimal) : String :=
  if -4 < d.point ∧ d.point ≤ 16 then d.positional else d.scientific

def text : Binary64 → String
  | .nan => "nan"
  | .infinite negative => if negative then "-inf" else "inf"
  | .finite negative s e =>
    (if negative then "-" else "") ++ (if s = 0 then "0.0" else (shortest s e).text)

end ChatAutomation.Binary64
