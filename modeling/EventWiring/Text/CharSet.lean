/-! Sets of characters given by the positions at which membership flips. A
character belongs to the set when an odd number of those positions lie at or
below its code point, which one binary search finds. -/
namespace EventWiring.Text

/-- Sorted code points; membership starts at the first and flips at each. -/
structure CharSet where
  flips : Array Nat

namespace CharSet

/-- The number of positions at or below `code` among those from `lo` up to but
not including `hi`, added to `lo`. -/
def countFrom (flips : Array Nat) (code lo hi : Nat) : Nat :=
  if h : lo < hi then
    let mid := (lo + hi) / 2
    if flips.getD mid 0 ≤ code then countFrom flips code (mid + 1) hi
    else countFrom flips code lo mid
  else lo
termination_by hi - lo

/-- Whether a character belongs to the set. -/
def contains (s : CharSet) (c : Char) : Bool :=
  countFrom s.flips c.toNat 0 s.flips.size % 2 == 1

end CharSet

end EventWiring.Text
