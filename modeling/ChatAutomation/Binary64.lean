/-!
# Binary floating point numbers

The finite numbers of the 64-bit binary format are integer multiples of `2 ^ (-1074)`, so order,
sum, product and truncation are integer arithmetic followed by one rounding to nearest, ties to
the even significand. Everything here is exact and runs inside the logic; powers are written
`Nat.pow`, so that they do not depend on which algebra is imported.
-/
namespace ChatAutomation

/-- A finite number is `± significand * 2 ^ exponent`. -/
inductive Binary64 where
  | nan
  | infinite (negative : Bool)
  | finite (negative : Bool) (significand : Nat) (exponent : Int)
  deriving DecidableEq, Repr

namespace Binary64

/-- The least exponent; every finite number is a multiple of `2 ^ minExponent`. -/
def minExponent : Int := -1074

/-- The greatest exponent of a finite number. -/
def maxExponent : Int := 971

/-- `2 ^ 52`, the least significand of a number that is not subnormal. -/
def hiddenBit : Nat := 4503599627370496

def zero : Binary64 := .finite false 0 minExponent

/-- The quotient `num / den` to the nearest integer, a half to the even neighbour. -/
def nearestQuotient (num den : Nat) : Nat :=
  let q := num / den
  let r := num % den
  if 2 * r < den then q
  else if den < 2 * r then q + 1
  else if q % 2 = 0 then q else q + 1

/-- `num / den / 2 ^ e` to the nearest integer. -/
def scaleDown (num den : Nat) (e : Int) : Nat :=
  if 0 ≤ e then nearestQuotient num (den * Nat.pow 2 e.toNat)
  else nearestQuotient (num * Nat.pow 2 (-e).toNat) den

/-- Is `num / den < 2 ^ e`? -/
def ratioBelow (num den : Nat) (e : Int) : Bool :=
  if 0 ≤ e then num < den * Nat.pow 2 e.toNat else num * Nat.pow 2 (-e).toNat < den

/-- The number nearest to `± num / den`, for positive `den`. -/
def ofRatio (negative : Bool) (num den : Nat) : Binary64 :=
  if num = 0 then .finite negative 0 minExponent
  else
    let top : Int := (num.log2 : Int) - (den.log2 : Int)
    let lead : Int := if ratioBelow num den top then top - 1 else top
    let e := max (lead - 52) minExponent
    let s := scaleDown num den e
    let (s, e) := if s = 2 * hiddenBit then (hiddenBit, e + 1) else (s, e)
    if maxExponent < e then .infinite negative else .finite negative s e

/-- The number nearest to `± digits * 10 ^ exponent`. As `10` is more than `2 ^ 3`, what is out of
range by far is known from the binary logarithm of the digits. -/
def ofDecimal (negative : Bool) (digits : Nat) (exponent : Int) : Binary64 :=
  if digits = 0 then .finite negative 0 minExponent
  else
    let lead : Int := digits.log2 + 3 * exponent
    if 0 ≤ exponent then
      if 1024 ≤ lead then .infinite negative
      else ofRatio negative (digits * Nat.pow 10 exponent.toNat) 1
    else if lead < -1076 then .finite negative 0 minExponent
    else ofRatio negative digits (Nat.pow 10 (-exponent).toNat)

/-- The number as a multiple of `2 ^ minExponent`. -/
def multiple : Binary64 → Option Int
  | .finite negative s e =>
    let magnitude : Int := (s * Nat.pow 2 (e - minExponent).toNat : Nat)
    some (if negative then -magnitude else magnitude)
  | _ => none

/-- The number nearest to a multiple of `2 ^ minExponent`. -/
def ofMultiple (n : Int) : Binary64 :=
  ofRatio (n < 0) n.natAbs (Nat.pow 2 1074)

/-- The number nearest to an integer, or none where that would be infinite. -/
def ofInt? (n : Int) : Option Binary64 :=
  match ofRatio (n < 0) n.natAbs 1 with
  | .infinite _ => none
  | x => some x

def isFinite : Binary64 → Bool
  | .finite .. => true
  | _ => false

def isNegative : Binary64 → Bool
  | .nan => false
  | .infinite negative => negative
  | .finite negative .. => negative

/-- Order on the extended reals; nothing is below or above what is not a number. -/
def lt : Binary64 → Binary64 → Bool
  | .nan, _ | _, .nan => false
  | .infinite a, .infinite b => a && !b
  | .infinite a, _ => a
  | _, .infinite b => !b
  | x, y =>
    match x.multiple, y.multiple with
    | some m, some n => m < n
    | _, _ => false

/-- Equality of values: the two zeros are equal, and what is not a number equals nothing. -/
def eq : Binary64 → Binary64 → Bool
  | .nan, _ | _, .nan => false
  | .infinite a, .infinite b => a == b
  | .infinite _, _ | _, .infinite _ => false
  | x, y => x.multiple == y.multiple

def neg : Binary64 → Binary64
  | .nan => .nan
  | .infinite negative => .infinite !negative
  | .finite negative s e => .finite (!negative) s e

def add : Binary64 → Binary64 → Binary64
  | .nan, _ | _, .nan => .nan
  | .infinite a, .infinite b => if a = b then .infinite a else .nan
  | .infinite a, _ => .infinite a
  | _, .infinite b => .infinite b
  | x, y =>
    match x.multiple, y.multiple with
    | some m, some n =>
      if m + n = 0 then .finite (x.isNegative && y.isNegative) 0 minExponent else ofMultiple (m + n)
    | _, _ => .nan

def sub (x y : Binary64) : Binary64 := x.add y.neg

def mul : Binary64 → Binary64 → Binary64
  | .nan, _ | _, .nan => .nan
  | .infinite a, .infinite b => .infinite (a != b)
  | .infinite a, .finite b s _ => if s = 0 then .nan else .infinite (a != b)
  | .finite a s _, .infinite b => if s = 0 then .nan else .infinite (a != b)
  | .finite a s e, .finite b t f =>
    let p := e + f
    if 0 ≤ p then ofRatio (a != b) (s * t * Nat.pow 2 p.toNat) 1
    else ofRatio (a != b) (s * t) (Nat.pow 2 (-p).toNat)

/-- The integer part, toward zero; none for what is not finite. -/
def truncate? (x : Binary64) : Option Int :=
  x.multiple.map fun n => Int.tdiv n (Nat.pow 2 1074)

/-- Is the number finite and whole? -/
def isInteger (x : Binary64) : Bool :=
  match x.multiple with
  | some n => n % (Nat.pow 2 1074) == 0
  | none => false

def isZero : Binary64 → Bool
  | .finite _ s _ => s = 0
  | _ => false

end Binary64
end ChatAutomation
