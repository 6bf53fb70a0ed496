import Mathlib.Logic.Function.Basic
import ChatAutomation.Pattern.Search

/-!
# What a pattern means

Backtracking explained without the memory that an attempt writes to. From a place, with what the
groups have matched so far, a pattern leads in several ways to other places: `Re.ways` lists them, the
one that is tried first at the front. To match a pattern and then a goal is to take the first way from
which the goal is reached.
-/
namespace ChatAutomation.Pattern

/-- What groups have matched, from where to where. -/
abbrev Captures := Nat → Option (Nat × Nat)

/-- Where a pattern leads to, and what the groups have matched then. -/
abbrev Way := Nat × Captures

namespace Captures

def none : Captures := fun _ => .none

def capture (v : Captures) (n first last : Nat) : Captures := Function.update v n (some (first, last))

@[simp] theorem capture_self (v : Captures) (n first last : Nat) :
    v.capture n first last n = some (first, last) := Function.update_self ..

theorem capture_of_ne {k n : Nat} (h : k ≠ n) (v : Captures) (first last : Nat) :
    v.capture n first last k = v k := Function.update_of_ne h ..

end Captures

/-- The ways through some rounds of a body, most of them first or, where the repetition is lazy, as few
as have to be. A round that would begin where the last one began is not tried. -/
def rounds (isLazy : Bool) (body : Nat → Captures → List Way) (least : Nat) (most : Option Nat) :
    (fuel count : Nat) → (last : Option Nat) → Nat → Captures → List Way
  | 0, _, _, _, _ => []
  | fuel + 1, count, last, pos, v =>
    if count < least then
      (body pos v).flatMap fun w => rounds isLazy body least most fuel (count + 1) last w.1 w.2
    else
      let more := if mayRepeat most count && last != some pos then
          (body pos v).flatMap fun w =>
            rounds isLazy body least most fuel (count + 1) (some pos) w.1 w.2
        else []
      if isLazy then (pos, v) :: more else more ++ [(pos, v)]

/-- The way of a test that the text passes, with what was captured on the first way of its body. -/
def passing (negated : Bool) (pos : Nat) (v : Captures) (ways : List Way) : List Way :=
  match ways, negated with
  | w :: _, false => [(pos, w.2)]
  | [], true => [(pos, v)]
  | _, _ => []

/-- The ways of a pattern, in the order in which they are tried. -/
def Re.ways (t : Array Char) : Re → Nat → Captures → List Way
  | .empty, pos, v => [(pos, v)]
  | .never, _, _ => []
  | .cat a b, pos, v => (a.ways t pos v).flatMap fun w => b.ways t w.1 w.2
  | .alt a b, pos, v => a.ways t pos v ++ b.ways t pos v
  | .letter l, pos, v => if l.fitsAt t pos then [(pos + 1, v)] else []
  | .anchor a, pos, v => if a.holds t pos then [(pos, v)] else []
  | .group n r, pos, v => (r.ways t pos v).map fun w => (w.1, w.2.capture n pos w.1)
  | .plain r, pos, v => r.ways t pos v
  | .backref n _ folding, pos, v =>
    match v n with
    | some (first, last) =>
      if repeats t folding first pos (last - first) then [(pos + (last - first), v)] else []
    | none => []
  | .choice n yes no, pos, v => if (v n).isSome then yes.ways t pos v else no.ways t pos v
  | .ahead negated r, pos, v => passing negated pos v (r.ways t pos v)
  | .behind negated w r, pos, v =>
    passing negated pos v (if pos < w.least then [] else r.ways t (pos - w.least) v)
  | .atomic r, pos, v => (r.ways t pos v).head?.toList
  | .loop greed least most r, pos, v =>
    let all := rounds (greed == .lazy) (r.ways t) least most (roundLimit t least) 0 none pos v
    if greed == .possessive then all.head?.toList else all

namespace Re
variable (t : Array Char)

theorem ways_sequence_cons (r : Re) (rs : List Re) :
    (sequence (r :: rs)).ways t = (cat r (sequence rs)).ways t := rfl

theorem ways_sequence_append (rs ss : List Re) (pos : Nat) (v : Captures) :
    (sequence (rs ++ ss)).ways t pos v =
      ((sequence rs).ways t pos v).flatMap fun w => (sequence ss).ways t w.1 w.2 := by
  induction rs generalizing pos v with
  | nil => simp [sequence, ways]
  | cons r rs ih =>
    rw [List.cons_append, ways_sequence_cons, ways_sequence_cons, ways, ways, List.flatMap_assoc]
    simp only [ih]

theorem ways_sequence_singleton (r : Re) (pos : Nat) (v : Captures) :
    (sequence [r]).ways t pos v = r.ways t pos v := by
  simp [sequence, ways]

theorem ways_choices (arms : List (List Re)) (pos : Nat) (v : Captures) :
    (choices arms).ways t pos v = arms.flatMap fun arm => (sequence arm).ways t pos v := by
  induction arms with
  | nil => rfl
  | cons arm arms ih =>
    rw [List.flatMap_cons, ← ih]
    rfl

end Re
end ChatAutomation.Pattern
