/-!
# Replacing parts of a text

Every occurrence of a pattern is replaced, from left to right, none of them overlapping another.
-/

namespace PointOfFocus.Text

/-- Replaces occurrences after `skip` characters of one that was already replaced. -/
def replaceFrom (pattern replacement : List Char) : Nat → List Char → List Char
  | _, [] => []
  | skip + 1, _ :: cs => replaceFrom pattern replacement skip cs
  | 0, c :: cs =>
    if pattern.isPrefixOf (c :: cs) then replacement ++ replaceFrom pattern replacement (pattern.length - 1) cs
    else c :: replaceFrom pattern replacement 0 cs

/-- The text with every occurrence of the pattern replaced. -/
def replaceAll (pattern replacement : String) (cs : List Char) : List Char :=
  replaceFrom pattern.toList replacement.toList 0 cs

end PointOfFocus.Text
