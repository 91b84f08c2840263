/-!
# Places in a YAML text

Indentation carries meaning in YAML, so a place in a text is what remains to be read together with its line and its
column. The end of the text shows as the null character, which no YAML text has.
-/

namespace PointOfFocus.Data.Yaml

/-- Whether YAML texts can have the character. -/
def isAllowed (c : Char) : Bool :=
  let n := c.toNat
  n = 0x9 || n = 0xa || n = 0xd || (0x20 ≤ n && n ≤ 0x7e) || n = 0x85 || (0xa0 ≤ n && n ≤ 0xfffd) || 0x10000 ≤ n

/-- Whether the character ends a line. -/
def isBreak (c : Char) : Bool :=
  c = '\n' || c = '\r' || c = '\u0085' || c = '\u2028' || c = '\u2029'

/-- Whether the character ends a line or the text. -/
def isLineEnd (c : Char) : Bool :=
  c = '\x00' || isBreak c

/-- Whether the character is a space or ends a line or the text. -/
def isSpaceOrEnd (c : Char) : Bool :=
  c = ' ' || isLineEnd c

/-- Whether the character is a space or a tab or ends a line or the text. -/
def isGap (c : Char) : Bool :=
  c = '\t' || isSpaceOrEnd c

/-- Whether the character is a space or a tab. -/
def isSpaceOrTab (c : Char) : Bool :=
  c = ' ' || c = '\t'

/-- A place in a text. -/
structure Cursor where
  /-- What remains to be read. -/
  rest : List Char
  /-- The number of characters before the place. -/
  index : Nat := 0
  /-- The line, counted from zero. -/
  line : Nat := 0
  /-- The column, counted from zero. -/
  column : Nat := 0

namespace Cursor

/-- The character at the place. -/
def peek (c : Cursor) : Char := c.rest.headD '\x00'

/-- The character some way after the place. -/
def peekAt (n : Nat) (c : Cursor) : Char := (c.rest.drop n).headD '\x00'

/-- The place after one character. A byte order mark takes no column. -/
def next (c : Cursor) : Cursor :=
  match c.rest with
  | [] => c
  | d :: rest =>
    if isBreak d then { rest, index := c.index + 1, line := c.line + 1, column := 0 }
    else { rest, index := c.index + 1, line := c.line, column := if d = '\ufeff' then c.column else c.column + 1 }

/-- The place after some characters. -/
def forward : Nat → Cursor → Cursor
  | 0, c => c
  | n + 1, c => forward n c.next

/-- The characters from here on that pass a test, and the place after them. -/
def takeWhile (test : Char → Bool) (c : Cursor) : List Char × Cursor :=
  let taken := c.rest.takeWhile test
  (taken, c.forward taken.length)

/-- The place after the characters from here on that pass a test. -/
def skipWhile (test : Char → Bool) (c : Cursor) : Cursor := (c.takeWhile test).2

/-- The place after spaces. -/
def skipSpaces (c : Cursor) : Cursor := c.skipWhile (· = ' ')

/-- The place at the end of the line. -/
def skipLine (c : Cursor) : Cursor := c.skipWhile (!isLineEnd ·)

/-- The line break at the place and the place after it. Most line breaks stand for a line feed. -/
def takeBreak? (c : Cursor) : Option (Char × Cursor) :=
  match c.rest with
  | '\r' :: '\n' :: _ => some ('\n', c.forward 2)
  | d :: _ =>
    if d = '\u2028' || d = '\u2029' then some (d, c.next)
    else if isBreak d then some ('\n', c.next)
    else none
  | [] => none

/-- Whether the mark of three dashes or three dots stands here by itself. -/
def atMark (c : Cursor) : Bool :=
  (['-', '-', '-'].isPrefixOf c.rest || ['.', '.', '.'].isPrefixOf c.rest) && isGap (c.peekAt 3)

/-- The place after spaces and, if it stands here, a comment. -/
def skipComment (c : Cursor) : Cursor :=
  let c := c.skipSpaces
  if c.peek = '#' then c.skipLine else c

end Cursor

end PointOfFocus.Data.Yaml
