/-!
# Ranges of characters

A set of code points is stored as the sorted list of its bounds: the first
member, the first non-member after it, and so on in turn. A number lies in
the set exactly when an odd number of bounds are at most it, so membership is
one binary search.
-/

namespace RepoSurvey.Text

/-- How many of the sorted `bounds` in positions `lo` up to `hi` are at most `n`, plus `lo`. -/
def countUpTo (bounds : Array Nat) (n lo hi : Nat) : Nat :=
  if lo < hi then
    let mid := (lo + hi) / 2
    match bounds[mid]? with
    | some b => if b ≤ n then countUpTo bounds n (mid + 1) hi else countUpTo bounds n lo mid
    | none => lo
  else lo
termination_by hi - lo
decreasing_by all_goals omega

/-- The number lies in the set with these bounds. -/
def inBounds (bounds : Array Nat) (n : Nat) : Bool :=
  countUpTo bounds n 0 bounds.size % 2 == 1

/-- The first member of the run of the set that `n` lies in. -/
def lowerBound? (bounds : Array Nat) (n : Nat) : Option Nat :=
  let k := countUpTo bounds n 0 bounds.size
  if k % 2 == 1 then bounds[k - 1]? else none

end RepoSurvey.Text
