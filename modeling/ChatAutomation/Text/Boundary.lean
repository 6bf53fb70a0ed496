/-!
# Sets of characters by their boundaries

An ascending list of boundaries stands for the set of numbers with an odd number of boundaries at
or below them.
-/
namespace ChatAutomation.Text

/-- Looks in `lo ..< hi` for the first index whose entry is above `x`. -/
def searchAbove (entry : Nat → Nat) (x lo hi : Nat) : Nat :=
  if h : lo < hi then
    let mid := (lo + hi) / 2
    if entry mid ≤ x then searchAbove entry x (mid + 1) hi else searchAbove entry x lo mid
  else lo
termination_by hi - lo
decreasing_by all_goals omega

/-- Is `x` in the set with these boundaries? -/
def inBoundaries (boundaries : Array Nat) (x : Nat) : Bool :=
  searchAbove (fun i => boundaries.getD i 0) x 0 boundaries.size % 2 == 1

end ChatAutomation.Text
