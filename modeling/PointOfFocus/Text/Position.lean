/-!
# Lines and columns

An offset into a text is told to a reader as a line and a column, both counted from one. Lines end at line
feeds only. An offset past the end of the text belongs to the last line.
-/

namespace PointOfFocus.Text

/-- A place in a text, as a reader counts it. -/
structure Position where
  /-- The line, counted from one. -/
  line : Nat
  /-- The column in its line, counted from one. -/
  column : Nat
deriving DecidableEq

/-- The offset at which the line of the given offset starts. -/
def lineStart (text : List Char) (offset : Nat) : Nat :=
  let before := text.take offset
  before.length - (before.reverse.takeWhile (· ≠ '\n')).length

/-- The line and the column of an offset. -/
def positionAt (text : List Char) (offset : Nat) : Position where
  line := (text.take offset).count '\n' + 1
  column := offset - lineStart text offset + 1

/-- The line and the column of an offset that may lie before the text. Such an offset is on the line that lies as far
before the end, and its column says how far it is from the start of that line. -/
def lineAndColumn (text : List Char) : Int → Nat × Int
  | .ofNat offset =>
    let position := positionAt text offset
    (position.line, position.column)
  | .negSucc n =>
    let stop := text.length - (n + 1)
    ((positionAt text stop).line, .negSucc n - lineStart text stop + 1)

end PointOfFocus.Text
