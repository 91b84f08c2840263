import PointOfFocus.Text.CodePoints

/-!
# Blank characters

The characters that separate words: the controls that move the pen, the four information separators, and the
spaces and separators of the Unicode standard.
-/

namespace PointOfFocus.Text

/-- The ranges of blank characters. -/
def blankRanges : CodePoints := [
  (0x9, 0xd), (0x1c, 0x20), (0x85, 0x85), (0xa0, 0xa0), (0x1680, 0x1680), (0x2000, 0x200a),
  (0x2028, 0x2029), (0x202f, 0x202f), (0x205f, 0x205f), (0x3000, 0x3000)]

/-- Whether the character is blank. -/
def isBlank (c : Char) : Bool :=
  blankRanges.contains c

/-- The text without the blanks at its start. -/
def dropBlanks (cs : List Char) : List Char :=
  cs.dropWhile isBlank

/-- The text without the blanks at its end. -/
def dropBlanksRight (cs : List Char) : List Char :=
  (cs.reverse.dropWhile isBlank).reverse

/-- The text without the blanks at either end. -/
def trimBlanks (cs : List Char) : List Char :=
  dropBlanksRight (dropBlanks cs)

end PointOfFocus.Text
