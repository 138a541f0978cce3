/-!
Sets of characters given by ranges of code points, as the tables of a standard list them.
Membership halves the list of ranges until one is left.
-/

namespace SwiftStyle.Text

/-- The characters whose code points lie in one of some ranges, both ends included. The ranges
are disjoint and ascending. -/
structure CharSet where
  ranges : Array (Nat × Nat)

namespace CharSet

/-- Looks for a code point among the ranges from `low` up to, and not including, `high`. -/
def search (ranges : Array (Nat × Nat)) (code low high : Nat) : Bool :=
  if low < high then
    let middle := (low + high) / 2
    match ranges[middle]? with
    | some (first, last) =>
      if code < first then search ranges code low middle
      else if last < code then search ranges code (middle + 1) high
      else true
    | none => false
  else
    false
termination_by high - low
decreasing_by all_goals omega

/-- Whether a character belongs to the set. -/
def contains (set : CharSet) (c : Char) : Bool :=
  search set.ranges c.toNat 0 set.ranges.size

end CharSet

end SwiftStyle.Text
