/-!
Sets of code points given by their edges: the sorted code points at which membership changes, beginning
outside the set.
-/

namespace Clausewise

/-- A set of code points, as the sorted points at which membership changes. -/
structure Edges where
  points : Array Nat
deriving Inhabited

namespace Edges

/-- How many of the sorted points from `lo` to below `hi` are at most `c`, plus `lo`, found by bisection. -/
def countUpTo (points : Array Nat) (c : Nat) : Nat → Nat → Nat → Nat
  | 0, lo, _ => lo
  | fuel + 1, lo, hi =>
    if hi ≤ lo then lo
    else
      let mid := (lo + hi) / 2
      if points.getD mid 0 ≤ c then countUpTo points c fuel (mid + 1) hi
      else countUpTo points c fuel lo mid

/-- Membership: an odd number of edges lies at or before the code point. -/
def contains (s : Edges) (c : Nat) : Bool :=
  countUpTo s.points c (s.points.size.log2 + 2) 0 s.points.size % 2 = 1

end Edges

end Clausewise
