import ChatAutomation.Pattern.CharSet

/-!
# Patterns

The syntax of patterns: sets of characters, sequence and choice, repetition that takes much, little
or never gives back, groups that remember what they matched, references to them, and tests of what
stands before or behind.
-/
namespace ChatAutomation.Pattern

/-- How much a repetition takes. -/
inductive Greed where
  | greedy
  | lazy
  | possessive
  deriving DecidableEq, Repr

/-- A place that matches nothing but itself. -/
inductive Anchor where
  | textStart
  | lineStart
  | textEnd
  | lineEnd
  /-- The end of the text, or the line break at its end. -/
  | lastLineEnd
  | boundary (negated ascii : Bool)
  deriving DecidableEq, Repr

/-- The least and the greatest number of characters that can be matched. -/
structure Width where
  least : Nat
  most : Nat
  deriving DecidableEq, Repr

/-- The bound of widths and of the numbers of repetitions. -/
def widthLimit : Nat := 4294967295

inductive Re where
  /-- The end of a sequence, which matches at every place. -/
  | empty
  | never
  /-- A part and the sequence that follows it. -/
  | cat (a b : Re)
  /-- An alternative and the others, of which there are none where it says `never`. -/
  | alt (a b : Re)
  | letter (l : Letter)
  | anchor (a : Anchor)
  | group (number : Nat) (r : Re)
  /-- A group that only sets flags. -/
  | plain (r : Re)
  | backref (number : Nat) (width : Width) (folding : Folding)
  | choice (number : Nat) (yes no : Re)
  | ahead (negated : Bool) (r : Re)
  | behind (negated : Bool) (width : Width) (r : Re)
  | atomic (r : Re)
  | loop (greed : Greed) (least : Nat) (most : Option Nat) (r : Re)
  deriving DecidableEq, Repr, Inhabited

namespace Width

/-- Widths are cut at the limit, the least one just below it. -/
def cap (w : Width) : Width := ⟨min w.least (widthLimit - 1), min w.most widthLimit⟩

def add (v w : Width) : Width := cap ⟨v.least + w.least, v.most + w.most⟩

def either (v w : Width) : Width := ⟨min v.least w.least, max v.most w.most⟩

def times (w : Width) (least : Nat) (most : Option Nat) : Width :=
  cap ⟨w.least * least, w.most * most.getD widthLimit⟩

end Width

namespace Re

def width : Re → Width
  | empty | never | anchor _ | ahead .. | behind .. => ⟨0, 0⟩
  | cat a b => a.width.add b.width
  | alt a never => a.width
  | alt a b => a.width.either b.width
  | letter _ => ⟨1, 1⟩
  | group _ r | plain r | atomic r => r.width
  | backref _ w _ => w
  | choice _ yes no => yes.width.either no.width
  | loop _ least most r => r.width.times least most

def isAnchor : Re → Bool
  | anchor _ => true
  | _ => false

def isLoop : Re → Bool
  | loop .. => true
  | _ => false

/-- Is the part one that may be drawn out of alternatives that begin with it? -/
def isShareable : Re → Bool
  | letter _ | anchor _ | backref .. | never => true
  | _ => false

/-- The sequence of some parts. -/
def sequence (rs : List Re) : Re := rs.foldr cat empty

/-- The alternatives of some sequences. -/
def choices (arms : List (List Re)) : Re := arms.foldr (fun arm r => alt (sequence arm) r) never

/-- What all alternatives begin with, what then remains of the first one, and of the others. -/
def commonStart (others : List (List Re)) : List Re → List Re × List Re × List (List Re)
  | [] => ([], [], others)
  | r :: rs =>
    if r.isShareable && others.all (fun arm => arm.head? == some r) then
      let (shared, first, others) := commonStart (others.map List.tail) rs
      (r :: shared, first, others)
    else ([], r :: rs, others)

/-- The parts of the sets that stand alone in some alternatives, if all are such. -/
def joinedParts? (arms : List (List Re)) : Option (List SetItem) :=
  (arms.mapM fun arm => match arm with
    | [letter l] => l.symbol.parts?
    | _ => none).map List.flatten

/-- The letter that a pattern begins with, where `next` begins what follows it. A group with a number
begins with none. -/
def opening (next : Option Letter) : Re → Option Letter
  | empty => next
  | cat a b => a.opening (b.opening next)
  | letter l => some l
  | plain r => r.opening next
  | _ => none

/-- The letter that is all of a pattern. -/
def single? : Re → Option Letter
  | letter l => some l
  | plain r => r.single?
  | cat a empty => a.single?
  | _ => none

end Re
end ChatAutomation.Pattern
