/-!
# Sets of code points

A class of characters that a standard fixes is given as data: the list of its ranges of code points. Membership
is a search through the list, so a statement about one character unfolds to comparisons of numbers.
-/

namespace PointOfFocus.Text

/-- A set of code points, as ranges with both ends included. -/
abbrev CodePoints := List (Nat × Nat)

/-- Whether the character lies in one of the ranges. -/
def CodePoints.contains (ranges : CodePoints) (c : Char) : Bool :=
  ranges.any fun range => range.1 ≤ c.toNat && c.toNat ≤ range.2

end PointOfFocus.Text
