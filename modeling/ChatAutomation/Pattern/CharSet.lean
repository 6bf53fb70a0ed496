import ChatAutomation.Text.Blank
import ChatAutomation.Text.Case
import ChatAutomation.Text.Digit
import ChatAutomation.Text.Surrogate
import ChatAutomation.Text.Word

/-!
# Sets of characters

A set is given by single characters, ranges and classes. Where case does not count, the set holds
lower case forms, and the character that is looked up is folded first; letters that share an upper
case form stand for each other. A `Letter` is what matches one character: a character, a set or the
wildcard.
-/
namespace ChatAutomation.Pattern

/-- How characters are compared. -/
inductive Folding where
  | exact
  | ascii
  | full
  deriving DecidableEq, Repr

def Folding.apply : Folding → Char → Char
  | exact, c => c
  | ascii, c => c.toLower
  | full, c => Text.simpleLower c

inductive Category where
  | digit
  | space
  | word
  deriving DecidableEq, Repr

/-- Is a character in the category, of ASCII or of all scripts? -/
def Category.holds (k : Category) (ascii : Bool) (c : Char) : Bool :=
  match k with
  | digit => if ascii then c.isDigit else Text.isDecimal c
  | space =>
    if ascii then c == ' ' || (9 ≤ c.toNat && c.toNat ≤ 13) else Text.isBlank c
  | word => if ascii then Text.isAsciiWord c else Text.isWord c

/-- A part of a set as it is written. Characters are given by their codes. -/
inductive SetItem where
  | one (code : Nat)
  | span (first last : Nat)
  | category (k : Category) (negated : Bool)
  deriving DecidableEq, Repr

/-- A part of a set that characters are tested against. -/
inductive Member where
  | span (first last step : Nat)
  /-- A range that also holds what lies in it in upper case. -/
  | eitherCase (first last : Nat)
  | category (k : Category) (ascii negated : Bool)
  deriving DecidableEq, Repr

def Member.holds (m : Member) (c : Char) : Bool :=
  let n := Text.code c
  match m with
  | span first last step => first ≤ n && n ≤ last && (n - first) % step == 0
  | eitherCase first last =>
    let u := (Text.simpleUpper c).toNat
    (first ≤ n && n ≤ last) || (first ≤ u && u ≤ last)
  | category k ascii negated => k.holds ascii c != negated

structure CharSet where
  negated : Bool
  folding : Folding
  members : List Member
  deriving DecidableEq, Repr

def CharSet.contains (s : CharSet) (c : Char) : Bool :=
  s.members.any (fun m => m.holds (s.folding.apply c)) != s.negated

/-- The lower case letters that share their upper case form with another one, and those others. -/
def sharedUpper : List (Nat × List Nat) := [
  (105, [305]), (115, [383]), (181, [956]), (305, [105]), (383, [115]), (837, [953, 8126]),
  (912, [8147]), (944, [8163]), (946, [976]), (949, [1013]), (952, [977]), (953, [837, 8126]),
  (954, [1008]), (956, [181]), (960, [982]), (961, [1009]), (962, [963]), (963, [962]),
  (966, [981]), (976, [946]), (977, [952]), (981, [966]), (982, [960]), (1008, [954]),
  (1009, [961]), (1013, [949]), (1074, [7296]), (1076, [7297]), (1086, [7298]), (1089, [7299]),
  (1090, [7300, 7301]), (1098, [7302]), (1123, [7303]), (7296, [1074]), (7297, [1076]),
  (7298, [1086]), (7299, [1089]), (7300, [1090, 7301]), (7301, [1090, 7300]), (7302, [1098]),
  (7303, [1123]), (7304, [42571]), (7777, [7835]), (7835, [7777]), (8126, [837, 953]),
  (8147, [912]), (8163, [944]), (42571, [7304]), (64261, [64262]), (64262, [64261])]

def point (n : Nat) : Member := .span n n 1

/-- The part of a run of case pairs that lies between two codes, by the index of its ends. -/
def caseSlice (r : Text.CaseRun) (first last : Nat) : Option (Nat × Nat) :=
  let lo := if first ≤ r.first then 0 else (first - r.first + r.step - 1) / r.step
  let hi := if last < r.first then none else some ((min last r.last - r.first) / r.step)
  hi.bind fun hi => if lo ≤ hi then some (lo, hi) else none

/-- The one character whose lower case form begins another way than its run would say. -/
def dottedCapital : Text.CaseRun := ⟨0x130, 0x130, 1, 0x69⟩

def allLowerRuns : List Text.CaseRun := dottedCapital :: Text.lowerRuns.toList

/-- The lower case forms of the codes of a range that have one. -/
def lowerImages (first last : Nat) : List Member :=
  allLowerRuns.filterMap fun r =>
    (caseSlice r first last).map fun (lo, hi) =>
      .span (r.image + lo * r.step) (r.image + hi * r.step) r.step

/-- Has a code of the range another form in another case? -/
def anyCased (first last : Nat) : Bool :=
  allLowerRuns.any (fun r => (caseSlice r first last).isSome) ||
    Text.upperRuns.any (fun r => (caseSlice r first last).isSome) ||
    Text.longUpper.any fun (n, _) => first ≤ n && n ≤ last

/-- The first code above the basic plane. -/
def upperPlanes : Nat := 0x10000

/-- Does a range hold a code with forms in both cases, of ASCII or of all scripts? -/
def hasCases (ascii : Bool) (first last : Nat) : Bool :=
  if ascii then first ≤ 122 && 65 ≤ last && !(90 < first && last < 97) else anyCased first last

/-- Does case matter for the part? In the upper planes it is taken to. -/
def SetItem.isCased (ascii : Bool) : SetItem → Bool
  | one n => upperPlanes ≤ n || hasCases ascii n n
  | span first last => upperPlanes ≤ last || hasCases ascii first last
  | category .. => false

/-- The lower case form of a code. -/
def lowerCode (ascii : Bool) (n : Nat) : Nat :=
  Text.code ((if ascii then Folding.ascii else .full).apply (Text.charOfCode n))

/-- The other letters that the members stand for. -/
def withShared (ms : List Member) : List Member :=
  ms ++ (sharedUpper.filter fun (n, _) => ms.any (·.holds (Char.ofNat n))).flatMap fun (_, others) =>
    others.map point

def SetItem.plain (ascii : Bool) : SetItem → Member
  | one n => point n
  | span first last => .span first last 1
  | category k negated => .category k ascii negated

/-- The members that stand for a part where case does not count. -/
def SetItem.folded (ascii : Bool) : SetItem → List Member
  | one n =>
    if upperPlanes ≤ n then [point n]
    else if ascii then [point (lowerCode ascii n)]
    else withShared [point (lowerCode ascii n)]
  | span first last =>
    let images := if ascii then
        if first ≤ 90 ∧ 65 ≤ last then [.span (max first 65 + 32) (min last 90 + 32) 1] else []
      else lowerImages first last
    let basic := .span first (min last (upperPlanes - 1)) 1 :: images
    (if ascii then basic else withShared basic) ++
      (if upperPlanes ≤ last then [.eitherCase first last] else [])
  | category k negated => [.category k ascii negated]

/-- The set of some parts, with or without regard to case. -/
def CharSet.ofItems (ignoreCase ascii negated : Bool) (items : List SetItem) : CharSet :=
  if ignoreCase && items.any (SetItem.isCased ascii) then
    ⟨negated, if ascii then .ascii else .full, items.flatMap (SetItem.folded ascii)⟩
  else ⟨negated, .exact, items.map (SetItem.plain ascii)⟩

/-- The set of one code, with or without regard to case. -/
def CharSet.ofCode (ignoreCase ascii negated : Bool) (n : Nat) : CharSet :=
  if ignoreCase && hasCases ascii n n then
    let lower := [point (lowerCode ascii n)]
    if ascii then ⟨negated, .ascii, lower⟩ else ⟨negated, .full, withShared lower⟩
  else ⟨negated, .exact, [point n]⟩

/-- What matches one character, as it is written. -/
inductive Symbol where
  | one (negated : Bool) (code : Nat)
  | among (negated : Bool) (items : List SetItem)
  | any (newline : Bool)
  deriving DecidableEq, Repr

namespace Symbol

/-- Some parts between brackets; a character alone between them stands for itself. -/
def ofItems (negated : Bool) (items : List SetItem) : Symbol :=
  match items.eraseDups with
  | [.one n] => one negated n
  | items => among negated items

/-- The parts of a symbol that may be joined with others to a set. -/
def parts? : Symbol → Option (List SetItem)
  | one false n => some [.one n]
  | among false items => some items
  | _ => none

/-- The characters that a symbol stands for. -/
def toSet (ignoreCase ascii : Bool) : Symbol → CharSet
  | one negated n => .ofCode ignoreCase ascii negated n
  | among negated items => .ofItems ignoreCase ascii negated items
  | any newline => ⟨true, .exact, if newline then [] else [point 10]⟩

end Symbol

/-- A symbol with the set that it stands for. -/
structure Letter where
  symbol : Symbol
  set : CharSet
  deriving DecidableEq, Repr

namespace Letter

def ofSymbol (ignoreCase ascii : Bool) (s : Symbol) : Letter := ⟨s, s.toSet ignoreCase ascii⟩

def fits (l : Letter) (c : Char) : Bool := l.set.contains c

/-- Are characters looked up as they stand? -/
def isExact (l : Letter) : Bool := l.set.folding == .exact

/-- The code of the one character that matches as it stands. -/
def code? (l : Letter) : Option Nat :=
  match l.symbol with
  | .one false n => if l.isExact then some n else none
  | _ => none

/-- Is the letter a character or a set that is looked up as it stands? -/
def isDirect (l : Letter) : Bool :=
  l.isExact && match l.symbol with
    | .one negated _ => !negated
    | .among .. => true
    | .any _ => false

/-- Is the letter a set that characters are folded for? -/
def isFoldedSet (l : Letter) : Bool :=
  !l.isExact && match l.symbol with
    | .one .. => 1 < l.set.members.length
    | .among .. => true
    | .any _ => false

end Letter
end ChatAutomation.Pattern
