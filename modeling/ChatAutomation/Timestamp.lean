import ChatAutomation.Binary64.Written
import ChatAutomation.Schema

/-!
# Points in time

A timestamp is a reading of the wall clock in microseconds since the first of January 1970, with
the distance of that clock from universal time where it is known. It is read from the usual written
forms and from a number of seconds or milliseconds, and written as date, time and distance.
-/
namespace ChatAutomation

structure Timestamp where
  /-- Microseconds since 1970 on the wall clock. -/
  wall : Int
  /-- Seconds that the wall clock is ahead of universal time. -/
  offset : Option Int
  deriving DecidableEq, Repr, Inhabited

/-- A day of the calendar. -/
structure Day where
  year : Int
  month : Nat
  day : Nat
  deriving DecidableEq, Repr

namespace Day

def isLeap (year : Int) : Bool := year % 4 == 0 && (year % 100 != 0 || year % 400 == 0)

def monthLength (year : Int) : Nat → Nat
  | 2 => if isLeap year then 29 else 28
  | 4 | 6 | 9 | 11 => 30
  | _ => 31

/-- Days since the first of January 1970; the year is counted from March. -/
def number (d : Day) : Int :=
  let y := if d.month ≤ 2 then d.year - 1 else d.year
  let era := y / 400
  let yearOfEra := y % 400
  let m : Int := (d.month + 9) % 12
  let dayOfYear := (153 * m + 2) / 5 + d.day - 1
  era * 146097 + (yearOfEra * 365 + yearOfEra / 4 - yearOfEra / 100 + dayOfYear) - 719468

def ofNumber (n : Int) : Day :=
  let z := n + 719468
  let era := z / 146097
  let dayOfEra := z % 146097
  let yearOfEra := (dayOfEra - dayOfEra / 1460 + dayOfEra / 36524 - dayOfEra / 146096) / 365
  let dayOfYear := dayOfEra - (365 * yearOfEra + yearOfEra / 4 - yearOfEra / 100)
  let m := (5 * dayOfYear + 2) / 153
  let month := if m < 10 then m + 3 else m - 9
  { year := yearOfEra + era * 400 + (if month ≤ 2 then 1 else 0)
    month := month.toNat
    day := (dayOfYear - (153 * m + 2) / 5 + 1).toNat }

end Day

namespace Timestamp

def microsPerSecond : Int := 1000000

/-- The time on the clock that shows universal time, but does not say so. -/
def ofSeconds (seconds : Int) (micros : Int) (offset : Option Int) : Timestamp :=
  ⟨seconds * microsPerSecond + micros, offset⟩

/-- What the clock shows at universal time. -/
def instant (t : Timestamp) : Int := t.wall - t.offset.getD 0 * microsPerSecond

/-- The milliseconds since 1970. -/
def millis (t : Timestamp) : Int := t.instant / 1000

/-! ## Writing -/

def twoDigits (n : Int) : String := Binary64.padded 2 n.toNat

def offsetText (seconds : Int) : String :=
  let m := seconds.natAbs
  let base := (if seconds < 0 then "-" else "+") ++ twoDigits (m / 3600) ++ ":" ++
    twoDigits (m / 60 % 60)
  if m % 60 = 0 then base else base ++ ":" ++ twoDigits (m % 60)

/-- Date and time, with microseconds where there are any. -/
def wallText (t : Timestamp) : String :=
  let seconds := t.wall / microsPerSecond
  let micros := t.wall % microsPerSecond
  let d := Day.ofNumber (seconds / 86400)
  let s := seconds % 86400
  Binary64.padded 4 d.year.toNat ++ "-" ++ twoDigits d.month ++ "-" ++ twoDigits d.day ++ "T" ++
    twoDigits (s / 3600) ++ ":" ++ twoDigits (s / 60 % 60) ++ ":" ++ twoDigits (s % 60) ++
    (if micros = 0 then "" else "." ++ Binary64.padded 6 micros.toNat)

def text (t : Timestamp) : String := t.wallText ++ (t.offset.map offsetText).getD ""

/-- As `text`, with universal time marked by a letter. -/
def brief (t : Timestamp) : String :=
  if t.offset = some 0 then t.wallText ++ "Z" else t.text

/-! ## Reading -/

/-- Why a text is not a day. -/
inductive DayFault where
  | short
  | year
  | month
  | day
  | separator
  | monthRange
  | dayRange
  | extra
  | early
  | late
  deriving DecidableEq, Repr

def DayFault.message : DayFault → String
  | short => "input is too short"
  | year => "invalid character in year"
  | month => "invalid character in month"
  | day => "invalid character in day"
  | separator => "invalid date separator, expected `-`"
  | monthRange => "month value is outside expected range of 1-12"
  | dayRange => "day value is outside expected range"
  | extra => "unexpected extra characters at the end of the input"
  | early => "dates before 0000 are not supported as unix timestamps"
  | late => "dates after 9999 are not supported as unix timestamps"

def digit? (c : Char) : Option Nat := if c.isDigit then some (c.toNat - 48) else none

/-- The number that some characters write, if all of them are digits. -/
def digits? (cs : List Char) : Option Nat :=
  if cs.all Char.isDigit then some (Numeral.digitsValue cs) else none

/-- The day at the front of a text, and what follows it. -/
def scanDay : List Char → Except DayFault (Day × List Char)
  | y₁ :: y₂ :: y₃ :: y₄ :: s₁ :: m₁ :: m₂ :: s₂ :: d₁ :: d₂ :: rest =>
    match digits? [y₁, y₂, y₃, y₄] with
    | none => .error .year
    | some y =>
      if s₁ ≠ '-' then .error .separator
      else
        match digits? [m₁, m₂] with
        | none => .error .month
        | some m =>
          if s₂ ≠ '-' then .error .separator
          else
            match digits? [d₁, d₂] with
            | none => .error .day
            | some d =>
              if m = 0 ∨ 12 < m then .error .monthRange
              else if d = 0 ∨ Day.monthLength y m < d then .error .dayRange
              else .ok (⟨y, m, d⟩, rest)
  | _ => .error .short

/-- The seconds and microseconds behind the minutes of a time, and what follows them. -/
def scanSeconds : List Char → Option ((Nat × Nat) × List Char)
  | ':' :: a :: b :: rest =>
    match digits? [a, b] with
    | none => none
    | some s =>
      if 59 < s then none
      else
        match rest with
        | c :: rest' =>
          if c = '.' ∨ c = ',' then
            let ds := rest'.takeWhile Char.isDigit
            if ds.isEmpty then none
            else
              let kept := ds.take 6
              let micros := Numeral.digitsValue kept * Nat.pow 10 (6 - kept.length)
              some ((s, micros), rest'.drop ds.length)
          else some ((s, 0), rest)
        | [] => some ((s, 0), [])
  | ':' :: _ => none
  | cs => some ((0, 0), cs)

/-- The distance from universal time at the end of a text. -/
def readOffset : List Char → Option (Option Int)
  | [] => some none
  | ['Z'] | ['z'] => some (some 0)
  | sign :: h₁ :: h₂ :: rest =>
    let minutes := match rest with
      | [':', m₁, m₂] => some [m₁, m₂]
      | [m₁, m₂] => some [m₁, m₂]
      | _ => none
    match digits? [h₁, h₂], minutes.bind digits? with
    | some h, some m =>
      let seconds : Int := h * 3600 + m * 60
      if sign ≠ '+' ∧ sign ≠ '-' ∧ sign ≠ '−' then none
      else if 59 < m ∨ 86400 ≤ seconds then none
      else some (some (if sign = '+' then seconds else -seconds))
    | _, _ => none
  | _ => none

/-- A text with date and time. -/
def readMoment (cs : List Char) : Option Timestamp :=
  match scanDay cs with
  | .ok (d, sep :: h₁ :: h₂ :: colon :: m₁ :: m₂ :: rest) =>
    if colon ≠ ':' ∨ ¬ ['T', 't', ' ', '_'].contains sep then none
    else
      match digits? [h₁, h₂], digits? [m₁, m₂], scanSeconds rest with
      | some h, some m, some ((s, micros), rest) =>
        if 23 < h ∨ 59 < m then none
        else
          (readOffset rest).map fun offset =>
            ofSeconds (d.number * 86400 + h * 3600 + m * 60 + s) micros offset
      | _, _, _ => none
  | _ => none

/-- The greatest number that counts seconds; what is greater counts milliseconds. -/
def secondsLimit : Int := 20000000000

/-- A number of seconds since 1970, from the year zero to the year 9999, with microseconds that may
fill one more second. -/
def ofParts (seconds micros : Int) : Except DayFault Timestamp :=
  if seconds < -62167219200 then .error .early
  else if 253402300799 < seconds then .error .late
  else .ok (ofSeconds seconds micros (some 0))

/-- A whole number of seconds or milliseconds. -/
def ofInt (n : Int) : Except DayFault Timestamp :=
  if n.natAbs ≤ secondsLimit.natAbs then ofParts n 0
  else ofParts (n / 1000) (n % 1000 * 1000)

/-- The microseconds in a fraction of a second, a half upward. -/
def microsOf (fraction : Binary64) : Int :=
  match (fraction.mul (.ofDecimal false 1000000 0)).multiple with
  | some n => (2 * n + Nat.pow 2 1074) / (2 * Nat.pow 2 1074)
  | none => 0

/-- A number of seconds or milliseconds; what is above the whole seconds is rounded. -/
def ofFloat (x : Binary64) : Except DayFault Timestamp :=
  let unit : Int := Nat.pow 2 1074
  match x.multiple with
  | none => .error (if x.isNegative then .early else .late)
  | some n =>
    let isSeconds := n.natAbs ≤ secondsLimit.natAbs * unit.natAbs
    let seconds := if isSeconds then x else .ofRatio x.isNegative n.natAbs (1000 * unit.natAbs)
    match seconds.multiple with
    | none => .error .late
    | some n => ofParts (Int.fdiv n unit) (microsOf (.ofMultiple (Int.fmod n unit)))

/-- The whole numbers that a text may write. -/
def maxWhole : Nat := 9223372036854775807

/-- A text that is a number: digits with a sign, and with a point also a fraction and an exponent. A
whole number that is out of range is named as such. -/
def readNumeric (cs : List Char) : Option (Except DayFault Timestamp) :=
  let (negative, rest) := Numeral.scanSign cs
  let whole := rest.takeWhile Char.isDigit
  match rest.drop whole.length with
  | [] =>
    let n := Numeral.digitsValue whole
    if whole.isEmpty || maxWhole < n then none else some (ofInt (if negative then -n else n))
  | '.' :: _ =>
    if cs.all (·.toNat < 128) then
      match Numeral.scan cs with
      | some (n, []) =>
        match ofFloat n.value with
        | .ok t => some (.ok t)
        | .error _ => none
      | _ => none
    else none
  | _ => none

def day (d : Day) : Timestamp := ofSeconds (d.number * 86400) 0 none

/-- Why fewer than ten characters are no day: ten bytes are enough for a look at each of them. -/
def shortFault (cs : List Char) : DayFault :=
  if (String.ofList cs).utf8ByteSize < 10 then .short
  else
    match scanDay (cs ++ List.replicate 10 ' ') with
    | .error e => e
    | .ok _ => .short

/-- A text with a date alone; what is wrong with it explains why a text is no timestamp. -/
def readDay (cs : List Char) : Except DayFault Timestamp :=
  match scanDay cs with
  | .ok (d, []) => .ok (day d)
  | .ok (_, _ :: _) => .error .extra
  | .error .short => .error (shortFault cs)
  | .error e => .error e

/-- A timestamp of the year zero, which the calendar does not have, is refused. -/
def inCalendar (t : Timestamp) : Checked Timestamp :=
  if (Day.ofNumber (t.wall / microsPerSecond / 86400)).year = 0 then
    .issue (.unreadableMoment "year 0 is out of range")
  else .ok t

def ofText (s : String) : Checked Timestamp :=
  let cs := s.toList
  match readMoment cs, readNumeric cs with
  | some t, _ => inCalendar t
  | none, some (.ok t) => inCalendar t
  | none, some (.error e) => .issue (.unreadableDay e.message)
  | none, none =>
    match readDay cs with
    | .ok t => inCalendar t
    | .error e => .issue (.unreadableDay e.message)

/-- A timestamp that was computed from a number. -/
def ofComputed : Except DayFault Timestamp → Checked Timestamp
  | .ok t => inCalendar t
  | .error e => .issue (.unreadableMoment e.message)

/-- A timestamp from a document. -/
def read : Value → Checked Timestamp
  | .text s => Schema.written ofText s
  | .int n => if (Binary64.ofInt? n).isSome then ofComputed (ofInt n) else .issue .notMoment
  | .float .nan => .issue (.unreadableMoment "NaN values not permitted")
  | .float x => ofComputed (ofFloat x)
  | _ => .issue .notMoment

end Timestamp
end ChatAutomation
