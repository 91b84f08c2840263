/-!
# Numbers of a fixed width

Dates and times are written with a fixed number of ASCII digits for each part, and zeros fill up the rest.
-/

namespace PointOfFocus.Calendar

/-- The number that the next `width` ASCII digits write, and what follows them. -/
def takeNumber? (width : Nat) (cs : List Char) : Option (Nat × List Char) :=
  let digits := cs.take width
  if digits.length = width && digits.all Char.isDigit then
    some (digits.foldl (fun n c => 10 * n + (c.toNat - '0'.toNat)) 0, cs.drop width)
  else none

/-- A number in decimal digits, with leading zeros up to the width. -/
def padded (width n : Nat) : String :=
  String.ofList ((Nat.toDigits 10 n).leftpad width '0')

/-- The bytes of a text, each as the character with its number. Widths and positions in a date are counted in
bytes, so a separator may take several of them. -/
def bytes (text : String) : List Char :=
  text.toUTF8.toList.map fun b => Char.ofNat b.toNat

end PointOfFocus.Calendar
