import ChatAutomation.Value
import ChatAutomation.Numeral
import ChatAutomation.Text.Case
import ChatAutomation.Text.Search
import ChatAutomation.Text.Surrogate

/-!
# Checked reading

Values are read into the types of the domain, and everything that is wrong is reported at once, in
the order in which the parts are declared. Some kinds accept more than one written form: a switch
may be written as a word or a digit, and a count as text.
-/
namespace ChatAutomation

/-- One step of the path to a part of a value. -/
inductive Step where
  | name (n : String)
  | index (n : Nat)
  deriving DecidableEq, Repr

/-- What is wrong with a part. -/
inductive Problem where
  | missing
  | notText
  /-- A text with halves of characters, where its characters matter. -/
  | brokenText
  | notSwitch
  | unreadableSwitch
  | notCount
  | unreadableCount
  | fractionalCount
  | infiniteCount
  | hugeCount
  | notNumber
  | unreadableNumber
  | notList
  | notObject
  | notModel (name : String)
  | notDocument
  | notConstant (expected : String)
  | notMoment
  | unreadableMoment (reason : String)
  | unreadableDay (reason : String)
  | malformedJson
  | refused (reason : String)
  deriving DecidableEq, Repr

/-- The short name of a problem. -/
def Problem.code : Problem → String
  | missing => "missing"
  | notText => "string_type"
  | brokenText => "string_unicode"
  | notSwitch => "bool_type"
  | unreadableSwitch => "bool_parsing"
  | notCount => "int_type"
  | unreadableCount => "int_parsing"
  | fractionalCount => "int_from_float"
  | infiniteCount => "finite_number"
  | hugeCount => "int_parsing_size"
  | notNumber => "float_type"
  | unreadableNumber => "float_parsing"
  | notList => "list_type"
  | notObject => "dict_type"
  | notModel _ => "model_type"
  | notDocument => "model_attributes_type"
  | notConstant _ => "literal_error"
  | notMoment => "datetime_type"
  | unreadableMoment _ => "datetime_parsing"
  | unreadableDay _ => "datetime_from_date_parsing"
  | malformedJson => "json_invalid"
  | refused _ => "value_error"

def Problem.message : Problem → String
  | missing => "Field required"
  | notText => "Input should be a valid string"
  | brokenText =>
    "Input should be a valid string, unable to parse raw data as a unicode string"
  | notSwitch => "Input should be a valid boolean"
  | unreadableSwitch => "Input should be a valid boolean, unable to interpret input"
  | notCount => "Input should be a valid integer"
  | unreadableCount => "Input should be a valid integer, unable to parse string as an integer"
  | fractionalCount => "Input should be a valid integer, got a number with a fractional part"
  | infiniteCount => "Input should be a finite number"
  | hugeCount => "Unable to parse input string as an integer, exceeded maximum size"
  | notNumber => "Input should be a valid number"
  | unreadableNumber => "Input should be a valid number, unable to parse string as a number"
  | notList => "Input should be a valid list"
  | notObject => "Input should be a valid dictionary"
  | notModel name => s!"Input should be a valid dictionary or instance of {name}"
  | notDocument => "Input should be a valid dictionary or object to extract fields from"
  | notConstant expected => s!"Input should be '{expected}'"
  | notMoment => "Input should be a valid datetime"
  | unreadableMoment reason => s!"Input should be a valid datetime, {reason}"
  | unreadableDay reason => s!"Input should be a valid datetime or date, {reason}"
  | malformedJson => "JSON decode error"
  | refused reason => s!"Value error, {reason}"

/-- A problem and where it is. -/
structure Issue where
  path : List Step
  problem : Problem
  deriving DecidableEq, Repr

def Issue.under (s : Step) (i : Issue) : Issue := { i with path := s :: i.path }

/-- A value that was read, or all that is wrong with it. -/
inductive Checked (α : Type) where
  | ok (a : α)
  | issues (is : List Issue)
  deriving Repr

namespace Checked
variable {α β : Type}

def issue (p : Problem) : Checked α := .issues [⟨[], p⟩]

def map (f : α → β) : Checked α → Checked β
  | ok a => ok (f a)
  | issues is => issues is

/-- Both parts; the issues of both are kept, in order. -/
def seq (f : Checked (α → β)) (x : Checked α) : Checked β :=
  match f, x with
  | ok f, ok a => ok (f a)
  | ok _, issues is => issues is
  | issues is, ok _ => issues is
  | issues is, issues js => issues (is ++ js)

instance : Applicative Checked where
  pure := ok
  seq f x := seq f (x ())
  map := map

theorem map_eq_ok_iff {f : α → β} {x : Checked α} {b : β} :
    f <$> x = ok b ↔ ∃ a, x = ok a ∧ f a = b := by
  cases x with
  | ok a => simp [Functor.map, map]
  | issues is => simp [Functor.map, map]

theorem seq_eq_ok_iff {f : Checked (α → β)} {x : Checked α} {b : β} :
    f <*> x = ok b ↔ ∃ g a, f = ok g ∧ x = ok a ∧ g a = b := by
  cases f <;> cases x <;> simp [Seq.seq, seq]

def under (s : Step) : Checked α → Checked α
  | ok a => ok a
  | issues is => issues (is.map (Issue.under s))

@[simp] theorem under_eq_ok_iff {s : Step} {x : Checked α} {a : α} :
    x.under s = ok a ↔ x = ok a := by
  cases x <;> simp [under]

/-- A further condition on a value that was read. -/
def refine (x : Checked α) (holds : α → Bool) (reason : String) : Checked α :=
  match x with
  | ok a => if holds a then ok a else issue (.refused reason)
  | issues is => issues is

def toExcept : Checked α → Except (List Issue) α
  | ok a => .ok a
  | issues is => .error is

end Checked

namespace Schema
variable {α : Type}

def text : Value → Checked String
  | .text s => .ok s
  | _ => .issue .notText

/-- What a text stands for, whose characters matter. -/
def written (read : String → Checked α) (s : String) : Checked α :=
  if Text.isWhole s then read s else .issue .brokenText

/-- The words for on and off, in any case. -/
def switchWord (s : String) : Option Bool :=
  match s with
  | "1" | "true" | "t" | "yes" | "y" | "on" => some true
  | "0" | "false" | "f" | "no" | "n" | "off" => some false
  | _ => none

/-- The whole numbers that fit in 64 bits. -/
def fitsWord (n : Int) : Bool := -9223372036854775808 ≤ n && n ≤ 9223372036854775807

/-- The whole numbers that floating point numbers are taken for: those of 64 bits but the least. -/
def fitsRounded (n : Int) : Bool := -9223372036854775808 < n && n ≤ 9223372036854775807

/-- A switch that is written as a number: zero or one. -/
def switchOfInt (n : Int) : Checked Bool :=
  if n = 0 then .ok false else if n = 1 then .ok true
  else if fitsWord n then .issue .unreadableSwitch else .issue .notSwitch

def switchOfText (s : String) : Checked Bool :=
  match switchWord (String.ofList (s.toList.map Char.toLower)) with
  | some b => .ok b
  | none => .issue .unreadableSwitch

def switch : Value → Checked Bool
  | .bool b => .ok b
  | .text s => written switchOfText s
  | .int n => switchOfInt n
  | .float x =>
    match if x.isInteger then x.truncate? else none with
    | some n => if fitsRounded n then switchOfInt n else .issue .notSwitch
    | none => .issue .notSwitch
  | _ => .issue .notSwitch

/-- The characters without their underscores, of which there are some, each alone and inside. -/
def withoutUnderscores (cs : List Char) : Option (List Char) :=
  let parts := Text.splitList '_' cs
  if 1 < parts.length && parts.all (!·.isEmpty) then some parts.flatten else none

/-- The greatest number of characters of a whole number, its minus included. -/
def maxCountSize : Nat := 4300

/-- A whole number in its plain form: a minus or none, and zero or digits that do not begin with
zero. Too long a number is huge whatever follows it. -/
def plainCount (cs : List Char) : Checked Int :=
  let sign := if cs.head? = some '-' then 1 else 0
  let ds := (cs.drop sign).takeWhile Char.isDigit
  if ds = ['0'] ∨ (ds ≠ [] ∧ ds.head? ≠ some '0') then
    if maxCountSize < sign + ds.length then .issue .hugeCount
    else if sign + ds.length < cs.length then .issue .unreadableCount
    else
      let n : Int := Numeral.digitsValue ds
      .ok (if sign = 1 then -n else n)
  else .issue .unreadableCount

/-- What is left behind a zero once the zeros and underscores that follow are taken off. A point
keeps what stands before it, and of nothing but zeros the last one stays. -/
def afterZeros (last : Char) : List Char → Option (List Char)
  | [] => some [last]
  | c :: cs =>
    if c = '0' ∨ c = '_' then afterZeros c cs
    else if c = '.' then some (last :: c :: cs)
    else if c = '-' ∨ c.isDigit then some (c :: cs)
    else none

/-- Takes the zeros off the front of a number. -/
def withoutLeadingZeros : List Char → Option (List Char)
  | '0' :: cs => afterZeros '0' cs
  | c :: cs => if c = '-' ∨ c.isDigit then some (c :: cs) else none
  | [] => none

/-- Takes a fraction of zeros off the end. -/
def withoutZeroFraction (cs : List Char) : List Char :=
  match cs.dropWhile (· != '.') with
  | _ :: zeros =>
    if !zeros.isEmpty && zeros.all (· == '0') then cs.takeWhile (· != '.') else cs
  | [] => cs

/-- The plain form of a number without blanks around it, or with a plus in front of it. -/
def withoutPlus : List Char → Option (List Char)
  | '+' :: '-' :: _ => none
  | '+' :: cs => some cs
  | cs => some cs

/-- A whole number as text, in its plain form or else once it is cleaned: of blanks around it, a
plus, leading zeros, a fraction of zeros and single underscores. -/
def countOfText (s : String) : Checked Int :=
  match plainCount s.toList with
  | .ok n => .ok n
  | .issues is =>
    if is.any (·.problem == .hugeCount) then .issues is
    else
      match (withoutPlus (trimNumber s.toList)).bind withoutLeadingZeros with
      | none => .issue .unreadableCount
      | some cs =>
        let cs := withoutZeroFraction cs
        match plainCount ((withoutUnderscores cs).getD cs) with
        | .ok n => .ok n
        | .issues _ => .issue .unreadableCount

def count : Value → Checked Int
  | .int n => .ok n
  | .bool b => .ok (if b then 1 else 0)
  | .float x =>
    match x.truncate? with
    | none => .issue .infiniteCount
    | some n =>
      if !x.isInteger then .issue .fractionalCount
      else if fitsRounded n then .ok n
      else .issue .hugeCount
  | .text s => written countOfText s
  | _ => .issue .notCount

/-- A number in ASCII characters. -/
def asciiNumber (cs : List Char) : Option Binary64 :=
  if cs.all (·.toNat < 128) then readWhole cs else none

/-- A number as text: with blanks around it, or else with single underscores anywhere inside. -/
def numberOfText (s : String) : Checked Binary64 :=
  match (asciiNumber (trimNumber s.toList)).or ((withoutUnderscores s.toList).bind asciiNumber) with
  | some x => .ok x
  | none => .issue .unreadableNumber

def number : Value → Checked Binary64
  | .float x => .ok x
  | .int n =>
    match Binary64.ofInt? n with
    | some x => .ok x
    | none => .issue .notNumber
  | .bool b => .ok (if b then .ofDecimal false 1 0 else .zero)
  | .text s => written numberOfText s
  | _ => .issue .notNumber

def object : Value → Checked (Entries Value)
  | .object es => .ok es
  | _ => .issue .notObject

def items : Value → Checked (List Value)
  | .list vs => .ok vs
  | _ => .issue .notList

/-- Null, or a value of the given kind. -/
def nullable (read : Value → Checked α) : Value → Checked (Option α)
  | .null => .ok none
  | v => (read v).map some

/-- The items of a list from the index `n` on, each read by itself. -/
def eachFrom (read : Value → Checked α) : Nat → List Value → Checked (List α)
  | _, [] => .ok []
  | n, v :: vs => List.cons <$> (read v).under (.index n) <*> eachFrom read (n + 1) vs

def listOf (read : Value → Checked α) : Value → Checked (List α)
  | .list vs => eachFrom read 0 vs
  | _ => .issue .notList

/-- A part that has to be there. -/
def required (es : Entries Value) (k : String) (read : Value → Checked α) : Checked α :=
  match es.get? k with
  | some v => (read v).under (.name k)
  | none => .issues [⟨[.name k], .missing⟩]

/-- A part that may be left out. -/
def optional (es : Entries Value) (k : String) (read : Value → Checked α) (default : α) :
    Checked α :=
  match es.get? k with
  | some v => (read v).under (.name k)
  | none => .ok default

/-- A part that names the kind of the whole, where it is there. -/
def constant (es : Entries Value) (k expected : String) : Checked Unit :=
  optional es k (fun v => match v with
    | .text s => written (fun s => if s = expected then .ok () else .issue (.notConstant expected)) s
    | _ => .issue (.notConstant expected)) ()

/-- The entries of a value that stands for the named model. -/
def model (name : String) (read : Entries Value → Checked α) : Value → Checked α
  | .object es => read es
  | _ => .issue (.notModel name)

/-! ## Successful reading -/

theorem text_eq_ok_iff {v : Value} {s : String} : text v = .ok s ↔ v = .text s := by
  cases v <;> simp [text, Checked.issue]

theorem required_eq_ok_iff {es : Entries Value} {k : String} {read : Value → Checked α} {a : α} :
    required es k read = .ok a ↔ ∃ v, es.get? k = some v ∧ read v = .ok a := by
  unfold required
  cases es.get? k <;> simp

theorem optional_of_get? {es : Entries Value} {k : String} {read : Value → Checked α} {v : Value}
    (h : es.get? k = some v) (default : α) :
    optional es k read default = (read v).under (.name k) := by
  simp only [optional, h]

theorem eachFrom_map {read : Value → Checked α} {write : α → Value} {as : List α}
    (h : ∀ a ∈ as, read (write a) = .ok a) (n : Nat) :
    eachFrom read n (as.map write) = .ok as := by
  induction as generalizing n with
  | nil => rfl
  | cons a as ih =>
    have hhead : read (write a) = .ok a := h a List.mem_cons_self
    have htail := ih (fun b hb => h b (List.mem_cons_of_mem _ hb)) (n + 1)
    simp only [List.map_cons, eachFrom, hhead, htail]
    rfl

/-- Reading gives back the items that were written. -/
theorem listOf_map {read : Value → Checked α} {write : α → Value} {as : List α}
    (h : ∀ a ∈ as, read (write a) = .ok a) : listOf read (.list (as.map write)) = .ok as :=
  eachFrom_map h 0

theorem exists_of_mem_eachFrom {read : Value → Checked α} {vs : List Value} {as : List α} {n : Nat}
    (h : eachFrom read n vs = .ok as) {a : α} (ha : a ∈ as) : ∃ v ∈ vs, read v = .ok a := by
  induction vs generalizing n as with
  | nil =>
    obtain rfl : [] = as := by simpa [eachFrom] using h
    cases ha
  | cons v vs ih =>
    obtain ⟨g, bs, hg, hbs, rfl⟩ := Checked.seq_eq_ok_iff.1 h
    obtain ⟨b, hb, rfl⟩ := Checked.map_eq_ok_iff.1 hg
    rcases List.mem_cons.1 ha with rfl | ha
    · exact ⟨v, List.mem_cons_self, Checked.under_eq_ok_iff.1 hb⟩
    · obtain ⟨w, hw, hread⟩ := ih hbs ha
      exact ⟨w, List.mem_cons_of_mem _ hw, hread⟩

/-- Every item that was read comes from one of the written ones. -/
theorem exists_of_mem_listOf {read : Value → Checked α} {v : Value} {as : List α}
    (h : listOf read v = .ok as) {a : α} (ha : a ∈ as) : ∃ w, read w = .ok a := by
  cases v with
  | list vs =>
    obtain ⟨w, -, hw⟩ := exists_of_mem_eachFrom h ha
    exact ⟨w, hw⟩
  | _ => simp [listOf, Checked.issue] at h

end Schema
end ChatAutomation
