import ChatAutomation.Pattern.Reader

/-!
# Searching for a pattern

A pattern is matched with backtracking: the parts of a pattern are tried in order, each with the
goal that remains behind it, and the first way that reaches the goal counts. What an attempt has
noted outlasts its failure: the place that it last set out from, and groups that are not taken
back. A possessive repetition goes on from that place. `Compiled.search` tries the places of a text
from the front.
-/
namespace ChatAutomation.Pattern

/-- What attempts note. -/
structure Memory where
  /-- The place that the last attempt set out from, or where it ended. -/
  place : Nat
  /-- Where groups began, at even indices, and ended, at odd ones. -/
  marks : Array (Option Nat)
  /-- How many of the marks count. -/
  known : Nat
  deriving DecidableEq, Repr

namespace Memory

def empty (groups : Nat) : Memory := ⟨0, Array.replicate (2 * groups) none, 0⟩

def moveTo (m : Memory) (place : Nat) : Memory := { m with place }

/-- Notes a position. The marks that come to count with it without being noted are cleared. -/
def mark (m : Memory) (i pos : Nat) : Memory :=
  let marks := (List.range' m.known (i - m.known)).foldl (·.setIfInBounds · none) m.marks
  { m with marks := marks.setIfInBounds i (some pos), known := max m.known (i + 1) }

/-- Takes back what has been noted since `saved`: which marks count, and in a loop all of them. -/
def restore (m saved : Memory) (inLoop : Bool) : Memory :=
  { m with known := saved.known, marks := if inLoop then saved.marks else m.marks }

/-- Where a group began and ended. -/
def ends? (m : Memory) (group : Nat) : Option (Nat × Nat) :=
  if 2 * group ≤ m.known then
    match m.marks[2 * group - 2]?.join, m.marks[2 * group - 1]?.join with
    | some first, some last => some (first, last)
    | _, _ => none
  else none

/-- The part of the text that a group matched. -/
def span? (m : Memory) (group : Nat) : Option (Nat × Nat) :=
  (m.ends? group).filter fun (first, last) => first ≤ last

end Memory

/-- How an attempt ends: with success or failure, and with what was noted in either case. -/
abbrev Outcome := Except Memory Memory

/-- What remains to be matched from a place on. -/
abbrev Goal := (pos : Nat) → Memory → Outcome

/-- The goal that is reached everywhere. -/
def arrive : Goal := fun pos m => .ok (m.moveTo pos)

/-- Goes on after a failure. -/
def Outcome.orElse (o : Outcome) (f : Memory → Outcome) : Outcome :=
  match o with
  | .ok m => .ok m
  | .error m => f m

/-- Goes back to a place after a failure. -/
def Outcome.backTo (o : Outcome) (pos : Nat) : Outcome := o.orElse fun m => .error (m.moveTo pos)

namespace Anchor

/-- Is the character at an index part of a word? -/
def wordAt (t : Array Char) (ascii : Bool) (i : Nat) : Bool :=
  match t[i]? with
  | some c => Category.word.holds ascii c
  | none => false

def isNewline (t : Array Char) (i : Nat) : Bool := t[i]? == some '\n'

/-- Does an anchor hold at a position? Nothing is a boundary of an empty text, nor the absence of
one. -/
def holds (t : Array Char) (i : Nat) : Anchor → Bool
  | textStart => i == 0
  | lineStart => i == 0 || isNewline t (i - 1)
  | textEnd => i == t.size
  | lineEnd => i == t.size || isNewline t i
  | lastLineEnd => i == t.size || (i + 1 == t.size && isNewline t i)
  | boundary negated ascii =>
    !t.isEmpty && ((i != 0 && wordAt t ascii (i - 1)) != wordAt t ascii i) != negated

end Anchor

/-! ## Repetition of a letter -/

namespace Letter

/-- Does the letter match the character at a position? -/
def fitsAt (l : Letter) (t : Array Char) (i : Nat) : Bool :=
  match t[i]? with
  | some c => l.fits c
  | none => false

/-- The place behind the characters from `i` on that the letter matches, `most` at the greatest. -/
def endFrom (l : Letter) (t : Array Char) (i : Nat) : (most : Nat) → Nat
  | 0 => i
  | most + 1 => if l.fitsAt t i then endFrom l t (i + 1) most else i

end Letter

/-- May a repetition go on after `count` rounds? -/
def mayRepeat (most : Option Nat) (count : Nat) : Bool :=
  match most with
  | some n => count < n
  | none => true

/-- Does the character `next?` stand at a position, where one is asked for? -/
def standsAt (t : Array Char) (next? : Option Nat) (pos : Nat) : Bool :=
  match next?, t[pos]? with
  | none, _ => true
  | some n, some c => Text.code c == n
  | some _, none => false

/-- The goal from behind `extra` characters after `first` or, failing that, behind fewer. Where the
goal begins with the character `next?`, other places are left out. -/
def giveBack (t : Array Char) (next? : Option Nat) (inLoop : Bool) (saved : Memory) (goal : Goal)
    (first : Nat) : (extra : Nat) → Memory → Outcome
  | 0, m =>
    if standsAt t next? first then
      (goal first (m.moveTo first)).orElse fun m => .error (m.restore saved inLoop)
    else .error m
  | extra + 1, m =>
    let pos := first + (extra + 1)
    if standsAt t next? pos then
      match goal pos (m.moveTo pos) with
      | .ok m => .ok m
      | .error m => giveBack t next? inLoop saved goal first extra (m.restore saved inLoop)
    else giveBack t next? inLoop saved goal first extra m

/-- The goal or, failing that, one more character and again; `count` characters have been passed. -/
def takeMore (t : Array Char) (l : Letter) (most : Option Nat) (inLoop : Bool) (saved : Memory)
    (goal : Goal) : (fuel count : Nat) → Goal
  | 0, _ => fun _ m => .error m
  | fuel + 1, count => fun pos m =>
    match goal pos (m.moveTo pos) with
    | .ok m => .ok m
    | .error m =>
      let m := (m.restore saved inLoop).moveTo pos
      if l.fitsAt t pos then
        let m := if l.isFoldedSet then m.moveTo (pos + 1) else m
        if mayRepeat most count then
          takeMore t l most inLoop saved goal fuel (count + 1) (pos + 1) m
        else .error m
      else .error m

/-- A repetition of one letter. Where too little of the text is left nothing is noted. -/
def letterRun (t : Array Char) (l : Letter) (greed : Greed) (least : Nat) (most : Option Nat)
    (next? : Option Nat) (inLoop : Bool) (goal : Goal) : Goal := fun pos m =>
  let left := t.size - pos
  if left < least then .error m
  else
    let wanted := match greed with
      | .lazy => least
      | _ => (most.map (min left)).getD left
    let count := l.endFrom t pos wanted - pos
    let m := m.moveTo (if l.isFoldedSet then pos + count else pos)
    if count < least then .error m
    else match greed with
      | .greedy => giveBack t next? inLoop m goal (pos + least) (count - least) m
      | .lazy => takeMore t l most inLoop m goal (left + 1) count (pos + count) m
      | .possessive => goal (pos + count) m

/-! ## Repetition of a pattern -/

/-- As many rounds as possible, then the goal. A round that would begin where the last one began is
not tried. -/
def greedyLoop (body : Goal → Goal) (least : Nat) (most : Option Nat) (goal : Goal) :
    (fuel count : Nat) → (last : Option Nat) → Goal
  | 0, _, _ => fun _ m => .error m
  | fuel + 1, count, last => fun pos m =>
    let m := m.moveTo pos
    if count < least then
      Outcome.backTo (body (greedyLoop body least most goal fuel (count + 1) last) pos m) pos
    else if mayRepeat most count && last != some pos then
      match body (greedyLoop body least most goal fuel (count + 1) (some pos)) pos m with
      | .ok m => .ok m
      | .error failed => Outcome.backTo (goal pos ((failed.restore m true).moveTo pos)) pos
    else Outcome.backTo (goal pos m) pos

/-- As few rounds as possible, then the goal; `inLoop` says whether the whole stands in a loop. -/
def lazyLoop (body : Goal → Goal) (least : Nat) (most : Option Nat) (inLoop : Bool) (goal : Goal) :
    (fuel count : Nat) → (last : Option Nat) → Goal
  | 0, _, _ => fun _ m => .error m
  | fuel + 1, count, last => fun pos m =>
    let m := m.moveTo pos
    if count < least then
      Outcome.backTo (body (lazyLoop body least most inLoop goal fuel (count + 1) last) pos m) pos
    else
      match goal pos m with
      | .ok m => .ok m
      | .error failed =>
        let m := (failed.restore m inLoop).moveTo pos
        if mayRepeat most count && last != some pos then
          Outcome.backTo
            (body (lazyLoop body least most inLoop goal fuel (count + 1) (some pos)) pos m) pos
        else .error m

/-- As many rounds as possible, each of them settled before the next. After the rounds that have to
be, a round that fails ends the repetition at the place that it noted last. -/
def possessiveLoop (body : Goal → Goal) (least : Nat) (most : Option Nat) (start : Nat) :
    (fuel count : Nat) → (last : Option Nat) → Memory → Outcome
  | 0, _, _, m => .error m
  | fuel + 1, count, last, m =>
    if count < least then
      match body arrive m.place m with
      | .ok m => possessiveLoop body least most start fuel (count + 1) last m
      | .error m => .error (m.moveTo start)
    else if mayRepeat most count && last != some m.place then
      match body arrive m.place m with
      | .ok q => possessiveLoop body least most start fuel (count + 1) (some m.place) q
      | .error failed => .ok (failed.restore m true)
    else .ok m

/-- A bound on the rounds of a loop: those that have to be, and one for every pair of a place and the
place before it. -/
def roundLimit (t : Array Char) (least : Nat) : Nat := least + (t.size + 2) * (t.size + 2)

/-! ## Matching -/

/-- Does the text from `i` on repeat the `n` characters from `first` on? -/
def repeats (t : Array Char) (folding : Folding) (first i : Nat) : Nat → Bool
  | 0 => true
  | n + 1 =>
    match t[first]?, t[i]? with
    | some a, some b => folding.apply a == folding.apply b && repeats t folding (first + 1) (i + 1) n
    | _, _ => false

/-- A test of what stands at or before a place, which does not move on. -/
def look (body : Goal → Goal) (negated : Bool) (back : Nat) (inLoop : Bool) (goal : Goal) : Goal :=
  fun pos m =>
    if pos < back then if negated then goal pos m else .error m
    else
      match body arrive (pos - back) (m.moveTo (pos - back)), negated with
      | .ok m, false => goal pos m
      | .error failed, true => goal pos (failed.restore m inLoop)
      | .ok m, true | .error m, false => .error m

/-- Could an alternative with such an opening match at a place? Only what is looked up directly
is tested beforehand. -/
def mayOpen (t : Array Char) (pos : Nat) : Option Letter → Bool
  | some l => !l.isDirect || l.fitsAt t pos
  | none => true

/-- Matches a pattern and then the goal, which begins with the letter `next`; `inLoop` says whether
the pattern stands in a loop that may be gone back into. -/
def Re.run (t : Array Char) : Re → (inLoop : Bool) → (next : Option Letter) → Goal → Goal
  | .empty, _, _, goal => goal
  | .never, _, _, _ => fun _ m => .error m
  | .cat a b, inLoop, next, goal =>
    a.run t inLoop (b.opening next) (b.run t inLoop next goal)
  | .alt a b, inLoop, next, goal => fun pos m =>
    if mayOpen t pos (a.opening none) then
      match a.run t inLoop none goal pos (m.moveTo pos) with
      | .ok m => .ok m
      | .error failed => b.run t inLoop next goal pos (failed.restore m inLoop)
    else b.run t inLoop next goal pos m
  | .letter l, _, _, goal => fun pos m => if l.fitsAt t pos then goal (pos + 1) m else .error m
  | .anchor a, _, _, goal => fun pos m => if a.holds t pos then goal pos m else .error m
  | .group n r, inLoop, _, goal => fun pos m =>
    r.run t inLoop none (fun pos m => goal pos (m.mark (2 * n - 1) pos)) pos
      (m.mark (2 * n - 2) pos)
  | .plain r, inLoop, next, goal => r.run t inLoop next goal
  | .backref n _ folding, _, _, goal => fun pos m =>
    match m.span? n with
    | some (first, last) =>
      if repeats t folding first pos (last - first) then goal (pos + (last - first)) m
      else .error m
    | none => .error m
  | .choice n yes no, inLoop, next, goal => fun pos m =>
    if (m.span? n).isSome then
      yes.run t inLoop (if no = .empty then next else none) goal pos m
    else no.run t inLoop next goal pos m
  | .ahead negated r, inLoop, _, goal => look (r.run t inLoop none) negated 0 inLoop goal
  | .behind negated w r, inLoop, _, goal =>
    look (r.run t inLoop none) negated w.least inLoop goal
  | .atomic r, inLoop, _, goal => fun pos m =>
    match r.run t inLoop none arrive pos (m.moveTo pos) with
    | .ok m => goal m.place m
    | .error m => .error (m.moveTo pos)
  | .loop greed least most r, inLoop, next, goal =>
    match r.single? with
    | some l => letterRun t l greed least most (next.bind Letter.code?) inLoop goal
    | none => fun pos m =>
      let limit := roundLimit t least
      match greed with
      | .greedy => greedyLoop (r.run t true none) least most goal limit 0 none pos m
      | .lazy => lazyLoop (r.run t true none) least most inLoop goal limit 0 none pos m
      | .possessive =>
        match possessiveLoop (r.run t inLoop none) least most pos limit 0 none (m.moveTo pos) with
        | .ok m => goal m.place m
        | .error m => .error m

namespace Re

/-- Does a pattern begin with characters that are looked up as they stand? The first says so; the
second says that it is nothing but them. -/
def leadingText : Re → Bool × Bool
  | empty => (false, true)
  | letter l => (l.code?.isSome, l.code?.isSome)
  | group _ r | plain r => r.leadingText
  | cat a b =>
    match a.leadingText with
    | (found, true) => let (more, all) := b.leadingText; (found || more, all)
    | (found, false) => (found, false)
  | _ => (false, false)

/-- Does every alternative begin with a character that is looked up as it stands? -/
def armsLead : Re → Bool
  | alt (cat (letter l) _) never => l.code?.isSome
  | alt (cat (letter l) _) b => l.code?.isSome && b.armsLead
  | _ => false

/-- Does a pattern begin with one of a set of characters that are looked up as they stand? -/
def leadingSet : Re → Bool
  | cat (letter l) _ => l.isDirect
  | cat (group _ r) _ | cat (plain r) _ => r.leadingSet
  | cat (alt a b) _ => (alt a b).armsLead
  | _ => false

end Re

namespace Compiled

/-- May a match begin at a position? Where it is known with which characters one begins, there must
be one left, and otherwise all but one of as many characters as the pattern needs. -/
def mayBegin (c : Compiled) (size i : Nat) : Bool :=
  let least := c.re.width.least
  if least = 0 then i ≤ size
  else if c.re.leadingText.1 || c.re.leadingSet then i < size
  else i + least ≤ size + 1

/-- The first match that begins at the position `i` or after it. -/
def searchFrom (c : Compiled) (t : Array Char) (m : Memory) (i : Nat) : Nat → Option Memory
  | 0 => none
  | n + 1 =>
    if c.mayBegin t.size i then
      match c.re.run t false none arrive i { m with place := i, known := 0 } with
      | .ok m => some m
      | .error m => searchFrom c t m (i + 1) n
    else none

/-- Does a group of a match end before it begins? -/
def hasWrongSpan (c : Compiled) (m : Memory) : Bool :=
  (List.range c.groups).any fun i =>
    match m.ends? (i + 1) with
    | some (first, last) => last < first
    | none => false

/-- Does the pattern match somewhere in the text? -/
def search (c : Compiled) (text : String) : Except Error Bool :=
  let t := text.toList.toArray
  if t.size < c.re.width.least then .ok false
  else
    match c.searchFrom t (.empty c.groups) 0 (t.size + 1) with
    | none => .ok false
    | some m => if c.hasWrongSpan m then .error .wrongSpan else .ok true

end Compiled
end ChatAutomation.Pattern
