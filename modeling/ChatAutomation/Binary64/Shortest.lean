import ChatAutomation.Binary64

/-!
# The shortest decimal that reads back

A positive number is the nearest one to every decimal of an interval around it. `shortest` gives
the fewest digits that name a decimal of that interval and, of those, the nearest to the number.
-/
namespace ChatAutomation.Binary64

/-- The least `k` from the given one on with `n < 10 ^ k`. -/
def powerAbove (n k : Nat) : Nat :=
  if h : n < Nat.pow 10 k then k else powerAbove n (k + 1)
termination_by n + 1 - Nat.pow 10 k
decreasing_by
  have : Nat.pow 10 k < Nat.pow 10 (k + 1) := Nat.pow_lt_pow_succ (by decide)
  omega

/-- The number of decimal digits of `n`, none for zero. As `2 ^ 10` is more than `10 ^ 3`, they are at
least three for every ten binary digits. -/
def digitCount (n : Nat) : Nat := if n = 0 then 0 else powerAbove n (3 * n.log2 / 10)

/-- `0.d₁d₂… * 10 ^ point`, with the digits as one number of `count` digits. -/
structure Decimal where
  digits : Nat
  count : Nat
  point : Int
  deriving DecidableEq, Repr

/-- The interval of decimals that round to a number, in units of `1 / scale`. -/
structure Interval where
  low : Nat
  value : Nat
  high : Nat
  closed : Bool
  scale : Nat

/-- The interval of `s * 2 ^ e`; below a power of two the neighbour is only half as far away. -/
def interval (s : Nat) (e : Int) : Interval :=
  let (up, down) := if 0 ≤ e then (Nat.pow 2 e.toNat, 1) else (1, Nat.pow 2 (-e).toNat)
  let narrow := s = hiddenBit ∧ minExponent < e
  { low := (if narrow then 4 * s - 1 else 4 * s - 2) * up
    value := 4 * s * up
    high := (4 * s + 2) * up
    closed := s % 2 = 0
    scale := 4 * down }

/-- Is `num / den` in the interval? -/
def Interval.contains (i : Interval) (num den : Nat) : Bool :=
  let x := num * i.scale
  if i.closed then i.low * den ≤ x && x ≤ i.high * den else i.low * den < x && x < i.high * den

/-- The power `point` with `10 ^ (point - 1) ≤ value < 10 ^ point`. -/
def Interval.point (i : Interval) : Int :=
  (digitCount (i.value * Nat.pow 10 330 / i.scale) : Int) - 330

/-- The decimal of at most `n` digits behind `point` in the interval that is nearest to the value; a
tie goes to the even last digit. -/
def Interval.onGrid (i : Interval) (point : Int) (n : Nat) : Option Nat :=
  let e := point - n
  let (up, down) := if 0 ≤ e then (Nat.pow 10 e.toNat, 1) else (1, Nat.pow 10 (-e).toNat)
  let num := i.value * down
  let den := i.scale * up
  let d := num / den
  let r := num % den
  match i.contains (d * up) down, i.contains ((d + 1) * up) down with
  | true, true => some (if 2 * r < den then d else if den < 2 * r then d + 1 else d + d % 2)
  | true, false => some d
  | false, true => some (d + 1)
  | false, false => none

/-- Drops the zeros at the end of a number's digits. -/
def stripZeros (d : Nat) : Nat :=
  if h : d ≠ 0 ∧ d % 10 = 0 then stripZeros (d / 10) else d
termination_by d
decreasing_by omega

/-- The first grid of `n`, `n + 1`, … digits that meets the interval; seventeen always do. -/
def Interval.firstGrid (i : Interval) (point : Int) : Nat → Nat → Nat × Nat
  | 0, n => (0, n)
  | fuel + 1, n =>
    match i.onGrid point n with
    | some d => (d, n)
    | none => i.firstGrid point fuel (n + 1)

/-- The shortest decimal of `s * 2 ^ e`, for positive `s`. -/
def shortest (s : Nat) (e : Int) : Decimal :=
  let i := interval s e
  let point := i.point
  let (d, n) := i.firstGrid point 20 1
  let digits := stripZeros d
  { digits, count := digitCount digits, point := point - n + digitCount d }

end ChatAutomation.Binary64
