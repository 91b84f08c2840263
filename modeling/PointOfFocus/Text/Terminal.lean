import PointOfFocus.Text.Replace

/-!
# Plain output

Output goes to files and other programs as well as to a terminal, so it is plain: without the sequences that set
colours or move the cursor, and with line feeds as line ends.
-/

namespace PointOfFocus.Text

/-- What is left after a control sequence at the start: an escape character, a bracket, parameters and a letter. -/
def afterControl? : List Char → Option (List Char)
  | '\x1b' :: '[' :: cs =>
    match cs.dropWhile fun c => c = ';' || c = '?' || c.isDigit with
    | c :: rest => if c.isAlpha then some rest else none
    | [] => none
  | _ => none

/-- The text without control sequences. The bound is the number of characters. -/
def dropControlsFrom : Nat → List Char → List Char
  | 0, cs => cs
  | _, [] => []
  | bound + 1, c :: cs =>
    match afterControl? (c :: cs) with
    | some rest => dropControlsFrom bound rest
    | none => c :: dropControlsFrom bound cs

/-- The text without control sequences. -/
def dropControls (text : String) : String :=
  String.ofList (dropControlsFrom text.length text.toList)

/-- The text with a line feed for every pair of a carriage return and a line feed. -/
def feedLines (text : String) : String :=
  String.ofList (replaceAll "\r\n" "\n" text.toList)

end PointOfFocus.Text
