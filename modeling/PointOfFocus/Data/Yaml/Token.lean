import PointOfFocus.Data.Binary
import PointOfFocus.Data.Yaml.Cursor

/-!
# Tokens of YAML

The parts that a YAML text is made of: indicators, names of anchors and tags, and scalars, of which each of the five
ways to write one is read by a function of its own. Line breaks inside a scalar are folded: one becomes a space, and of
several all but the first stay.
-/

namespace PointOfFocus.Data.Yaml

open PointOfFocus.Text

/-- A token. -/
inductive Token where
  /-- The declaration of a version: the part before the point and the part after it. -/
  | version (major minor : Nat)
  /-- The declaration of what a handle of tags stands for. -/
  | handle (name meaning : String)
  /-- A declaration without a meaning. -/
  | declaration
  /-- The mark before a document. -/
  | documentStart
  /-- The mark after a document. -/
  | documentEnd
  /-- The end of the text. -/
  | streamEnd
  /-- A list that indentation delimits starts. -/
  | blockSequence
  /-- A mapping that indentation delimits starts. -/
  | blockMapping
  /-- What indentation delimits ends. -/
  | blockEnd
  /-- An opening square bracket. -/
  | openBracket
  /-- A closing square bracket. -/
  | closeBracket
  /-- An opening curly bracket. -/
  | openBrace
  /-- A closing curly bracket. -/
  | closeBrace
  /-- A comma. -/
  | comma
  /-- A dash before an item. -/
  | dash
  /-- A key follows. -/
  | key
  /-- A value follows. -/
  | value
  /-- A node that is named elsewhere. -/
  | alias (name : String)
  /-- The name of the node that follows. -/
  | anchor (name : String)
  /-- The tag of the node that follows: its handle, if it has one, and the rest. -/
  | tag (handle : Option String) (rest : String)
  /-- A scalar, and whether it is written without quotes. -/
  | scalar (text : String) (plain : Bool)
deriving DecidableEq

/-- Why a text has no tokens. -/
inductive ScanError where
  /-- The text is not YAML. -/
  | malformed
  /-- An escape names a number that is no code point. -/
  | escape (cause : EscapeError)
deriving DecidableEq

/-- The fault of a text that is not YAML. -/
def malformed {α : Type} : Except ScanError α := .error .malformed

/-- The place, if the character there passes a test. -/
def expect (test : Char → Bool) (c : Cursor) : Except ScanError Cursor :=
  if test c.peek then .ok c else malformed

/-! ### Names and tags -/

/-- Whether the character can stand in the name of an anchor. -/
def isNameChar (c : Char) : Bool := c.isAlphanum || c = '-' || c = '_'

/-- A name of at least one character. -/
def scanName (c : Cursor) : Except ScanError (String × Cursor) :=
  let (name, c) := c.takeWhile isNameChar
  if name.isEmpty then malformed else .ok (String.ofList name, c)

/-- The name of an anchor after its indicator. -/
def scanAnchor (c : Cursor) : Except ScanError (String × Cursor) := do
  let (name, c) ← scanName c.next
  return (name, ← expect (fun d => isGap d || "?:,]\x7d%@\x60".toList.contains d) c)

/-- Whether the character can stand in a tag. -/
def isTagChar (c : Char) : Bool :=
  c.isAlphanum || "-;/?:@&=+$,_.!~*'()[]".toList.contains c

/-- Bytes that are written as percent signs with two digits each. -/
def scanPercents : Nat → Cursor → Except ScanError (List Nat × Cursor)
  | 0, c => .ok ([], c)
  | bound + 1, c =>
    if c.peek = '%' then
      match hexNumber? 2 (c.rest.drop 1) with
      | none => malformed
      | some byte => do
        let (bytes, c) ← scanPercents bound (c.forward 3)
        return (byte :: bytes, c)
    else .ok ([], c)

/-- The parts of a tag, some of which may be written as bytes. -/
def scanTagParts : Nat → Cursor → Except ScanError (List Char × Cursor)
  | 0, c => .ok ([], c)
  | bound + 1, c => do
    let (plain, c) := c.takeWhile isTagChar
    if c.peek = '%' then
      let (bytes, c) ← scanPercents (c.rest.length + 1) c
      match String.fromUTF8? ⟨(bytes.map Nat.toUInt8).toArray⟩ with
      | none => malformed
      | some decoded =>
        let (more, c) ← scanTagParts bound c
        return (plain ++ decoded.toList ++ more, c)
    else return (plain, c)

/-- A tag without its handle, which is not empty. -/
def scanTagRest (c : Cursor) : Except ScanError (String × Cursor) := do
  let (cs, after) ← scanTagParts (c.rest.length + 1) c
  if after.index = c.index then malformed else return (String.ofList cs, after)

/-- A handle of tags: one exclamation mark, or two with a name between them. -/
def scanHandle (c : Cursor) : Except ScanError (String × Cursor) :=
  if c.peek ≠ '!' then malformed
  else
    let after := c.next
    if after.peek = ' ' then .ok ("!", after)
    else
      let (name, after) := after.takeWhile isNameChar
      if after.peek = '!' then .ok (String.ofList ('!' :: name ++ ['!']), after.next) else malformed

/-- A tag. -/
def scanTag (c : Cursor) : Except ScanError (Token × Cursor) := do
  let d := c.peekAt 1
  let (token, c) ←
    if d = '<' then do
      let (rest, c) ← scanTagRest (c.forward 2)
      let c ← expect (· = '>') c
      pure (Token.tag none rest, c.next)
    else if isGap d then pure (Token.tag none "!", c.next)
    else if ((c.rest.drop 1).takeWhile (!isSpaceOrEnd ·)).contains '!' then do
      let (handle, c) ← scanHandle c
      let (rest, c) ← scanTagRest c
      pure (Token.tag (some handle) rest, c)
    else do
      let (rest, c) ← scanTagRest c.next
      pure (Token.tag (some "!") rest, c)
  return (token, ← expect isSpaceOrEnd c)

/-! ### Declarations -/

/-- A number in decimal digits. -/
def scanNumber (c : Cursor) : Except ScanError (Nat × Cursor) :=
  let (digits, c) := c.takeWhile Char.isDigit
  if digits.isEmpty then malformed
  else .ok (digits.foldl (fun n d => 10 * n + (d.toNat - '0'.toNat)) 0, c)

/-- The rest of a line that has nothing but a comment. -/
def scanLineRest (c : Cursor) : Except ScanError Cursor := do
  let c ← expect isLineEnd c.skipComment
  return (c.takeBreak?.map (·.2)).getD c

/-- A declaration, which takes a line. -/
def scanDeclaration (c : Cursor) : Except ScanError (Token × Cursor) := do
  let (name, c) ← scanName c.next
  let c ← expect isSpaceOrEnd c
  let (token, c) ←
    if name = "YAML" then do
      let (major, c) ← scanNumber c.skipSpaces
      let c ← expect (· = '.') c
      let (minor, c) ← scanNumber c.next
      pure (Token.version major minor, ← expect isSpaceOrEnd c)
    else if name = "TAG" then do
      let (handle, c) ← scanHandle c.skipSpaces
      let c ← expect (· = ' ') c
      let (meaning, c) ← scanTagRest c.skipSpaces
      pure (Token.handle handle meaning, ← expect isSpaceOrEnd c)
    else pure (Token.declaration, c.skipLine)
  return (token, ← scanLineRest c)

/-! ### Quoted scalars -/

/-- The character that a backslash and this one stand for. -/
def escapedChar? : Char → Option Char
  | '0' => some '\x00'
  | 'a' => some '\x07'
  | 'b' => some '\x08'
  | 't' | '\t' => some '\t'
  | 'n' => some '\n'
  | 'v' => some '\x0b'
  | 'f' => some '\x0c'
  | 'r' => some '\r'
  | 'e' => some '\x1b'
  | ' ' => some ' '
  | '"' => some '"'
  | '\\' => some '\\'
  | '/' => some '/'
  | 'N' => some '\u0085'
  | '_' => some '\u00a0'
  | 'L' => some '\u2028'
  | 'P' => some '\u2029'
  | _ => none

/-- The number of digits after the letter of a numeric escape. -/
def escapeWidth? : Char → Option Nat
  | 'x' => some 2
  | 'u' => some 4
  | 'U' => some 8
  | _ => none

/-- The line breaks from here on, with the spaces and tabs around them dropped. A mark of documents must not follow. -/
def scanBreaks : Nat → Cursor → Except ScanError (List Char × Cursor)
  | 0, c => .ok ([], c)
  | bound + 1, c =>
    if c.atMark then malformed
    else
      let c := c.skipWhile isSpaceOrTab
      match c.takeBreak? with
      | some (d, c) => do
        let (more, c) ← scanBreaks bound c
        return (d :: more, c)
      | none => .ok ([], c)

/-- What a line break and those that follow it stand for. -/
def folded (first : Char) (more : List Char) : List Char :=
  if first ≠ '\n' then first :: more else if more.isEmpty then [' '] else more

/-- The text of a quoted scalar up to its closing quote, which is left for the caller. -/
def scanQuoted (double : Bool) : Nat → Cursor → Except ScanError (List Char × Cursor)
  | 0, _ => malformed
  | bound + 1, c => do
    let d := c.peek
    if d = '\x00' then malformed
    else if !double && d = '\'' && c.peekAt 1 = '\'' then
      let (more, c) ← scanQuoted double bound (c.forward 2)
      return ('\'' :: more, c)
    else if d = (if double then '"' else '\'') then return ([], c)
    else if double && d = '\\' then
      let c := c.next
      let e := c.peek
      match escapedChar? e, escapeWidth? e with
      | some value, _ =>
        let (more, c) ← scanQuoted double bound c.next
        return (value :: more, c)
      | none, some width =>
        match hexNumber? width (c.rest.drop 1) with
        | none => malformed
        | some n =>
          let value ← (codePoint n).mapError .escape
          let (more, c) ← scanQuoted double bound (c.forward (width + 1))
          return (value :: more, c)
      | none, none =>
        match c.takeBreak? with
        | none => malformed
        | some (_, c) =>
          let (breaks, c) ← scanBreaks (c.rest.length + 1) c
          let (more, c) ← scanQuoted double bound c
          return (breaks ++ more, c)
    else if isSpaceOrTab d || isBreak d then
      let (spaces, c) := c.takeWhile isSpaceOrTab
      match c.takeBreak? with
      | some (first, c) =>
        let (breaks, c) ← scanBreaks (c.rest.length + 1) c
        let (more, c) ← scanQuoted double bound c
        return (folded first breaks ++ more, c)
      | none =>
        let (more, c) ← scanQuoted double bound c
        return (spaces ++ more, c)
    else
      let (more, c) ← scanQuoted double bound c.next
      return (d :: more, c)

/-- A quoted scalar. -/
def scanQuotedScalar (c : Cursor) : Except ScanError (Token × Cursor) := do
  let (cs, c') ← scanQuoted (c.peek = '"') (c.rest.length + 1) c.next
  return (.scalar (String.ofList cs) false, c'.next)

/-! ### Block scalars -/

/-- What becomes of the line breaks at the end of a block scalar. -/
inductive Chomping where
  /-- One of them stays. -/
  | clip
  /-- None of them stays. -/
  | strip
  /-- All of them stay. -/
  | keep
deriving DecidableEq

/-- How the line breaks at the end are treated, if an indicator says so. -/
def scanChomping (c : Cursor) : Chomping × Cursor :=
  if c.peek = '+' then (.keep, c.next) else if c.peek = '-' then (.strip, c.next) else (.clip, c)

/-- The additional indentation of a block scalar, if it is given; zero is none. -/
def scanIncrement (c : Cursor) : Except ScanError (Option Nat × Cursor) :=
  if c.peek.isDigit then
    if c.peek = '0' then malformed else .ok (some (c.peek.toNat - '0'.toNat), c.next)
  else .ok (none, c)

/-- The header of a block scalar: two indicators in either order. -/
def scanBlockHeader (c : Cursor) : Except ScanError ((Chomping × Option Nat) × Cursor) := do
  let (first, c) := scanChomping c
  let (increment, c) ← scanIncrement c
  let (chomping, c) := if first = .clip && increment.isSome then scanChomping c else (first, c)
  let c ← expect isSpaceOrEnd c
  return ((chomping, increment), ← scanLineRest c)

/-- The line breaks before the first line with content, and the greatest indentation among the lines up to there. -/
def scanIndentation : Nat → (greatest : Nat) → Cursor → (List Char × Nat) × Cursor
  | 0, greatest, c => (([], greatest), c)
  | bound + 1, greatest, c =>
    if c.peek = ' ' then
      let c := c.next
      scanIndentation bound (max greatest c.column) c
    else
      match c.takeBreak? with
      | some (d, c) =>
        let ((breaks, greatest), c) := scanIndentation bound greatest c
        ((d :: breaks, greatest), c)
      | none => (([], greatest), c)

/-- The place after spaces, not beyond the given column. -/
def skipIndent (indent : Nat) : Nat → Cursor → Cursor
  | 0, c => c
  | bound + 1, c => if c.column < indent && c.peek = ' ' then skipIndent indent bound c.next else c

/-- The line breaks of lines without content, for the given indentation. -/
def scanBlockBreaks (indent : Nat) : Nat → Cursor → List Char × Cursor
  | 0, c => ([], c)
  | bound + 1, c =>
    let c := skipIndent indent indent c
    match c.takeBreak? with
    | some (d, c) =>
      let (breaks, c) := scanBlockBreaks indent bound c
      (d :: breaks, c)
    | none => ([], c)

/-- Whether a line of a block scalar with the given indentation starts here. -/
def atBlockLine (indent : Nat) (c : Cursor) : Bool :=
  c.column = indent && c.peek ≠ '\x00'

/-- The lines of a block scalar after the line breaks before them, and the breaks at the end: the first one, if there is
one, and the others. -/
def scanBlockLines (isFolded : Bool) (indent : Nat) : Nat → (breaks : List Char) → Cursor →
    (List Char × List Char × List Char) × Cursor
  | 0, breaks, c => (([], [], breaks), c)
  | bound + 1, breaks, c =>
    if atBlockLine indent c then
      let startsPlain := !isSpaceOrTab c.peek
      let (line, c) := c.takeWhile (!isLineEnd ·)
      let (first, c) := match c.takeBreak? with
        | some (d, c) => ([d], c)
        | none => ([], c)
      let (more, c) := scanBlockBreaks indent (c.rest.length + 1) c
      if atBlockLine indent c then
        let joint :=
          if isFolded && first = ['\n'] && startsPlain && !isSpaceOrTab c.peek then
            if more.isEmpty then [' '] else []
          else first
        let ((text, last, rest), c) := scanBlockLines isFolded indent bound more c
        ((breaks ++ line ++ joint ++ text, last, rest), c)
      else ((breaks ++ line, first, more), c)
    else (([], [], breaks), c)

/-- A block scalar inside a collection with the given indentation. -/
def scanBlockScalar (outer : Int) (c : Cursor) : Except ScanError (Token × Cursor) := do
  let isFolded := c.peek = '>'
  let ((chomping, increment), c) ← scanBlockHeader c.next
  let least := (max (outer + 1) 1).toNat
  let ((breaks, indent), c) := match increment with
    | none =>
      let ((breaks, greatest), c) := scanIndentation (c.rest.length + 1) 0 c
      ((breaks, max least greatest), c)
    | some n =>
      let (breaks, c) := scanBlockBreaks (least + n - 1) (c.rest.length + 1) c
      ((breaks, least + n - 1), c)
  let ((text, last, more), c) := scanBlockLines isFolded indent (c.rest.length + 1) breaks c
  let tail := match chomping with
    | .clip => last
    | .strip => []
    | .keep => last ++ more
  return (.scalar (String.ofList (text ++ tail)) false, c)

/-! ### Plain scalars -/

/-- Whether the character, before another one, ends a piece of a plain scalar. -/
def endsPiece (inFlow : Bool) (d next : Char) : Bool :=
  isGap d || (d = ':' && (isGap next || (inFlow && ",[]\x7b\x7d".toList.contains next)))
    || (inFlow && ",?[]\x7b\x7d".toList.contains d)

/-- The characters of a piece of a plain scalar. -/
def piece (inFlow : Bool) : List Char → List Char
  | [] => []
  | d :: rest => if endsPiece inFlow d (rest.headD '\x00') then [] else d :: piece inFlow rest

/-- Spaces and line breaks, with the spaces dropped; nothing if a mark of documents follows a line break. -/
def scanPlainBreaks : Nat → Cursor → Option (List Char) × Cursor
  | 0, c => (some [], c)
  | bound + 1, c =>
    if c.peek = ' ' then scanPlainBreaks bound c.next
    else
      match c.takeBreak? with
      | some (d, c) =>
        if c.atMark then (none, c)
        else
          let (more, c) := scanPlainBreaks bound c
          (more.map (d :: ·), c)
      | none => (some [], c)

/-- The gap after a piece of a plain scalar: what it stands for if the scalar goes on, and whether a line ended. -/
def scanPlainGap (c : Cursor) : (List Char × Bool) × Cursor :=
  let (spaces, c) := c.takeWhile (· = ' ')
  match c.takeBreak? with
  | some (first, c) =>
    if c.atMark then (([], true), c)
    else
      match scanPlainBreaks (c.rest.length + 1) c with
      | (some breaks, c) => ((folded first breaks, true), c)
      | (none, c) => (([], true), c)
  | none => ((spaces, false), c)

/-- A plain scalar inside a collection with the given indentation, after a gap in it, and whether it ends at the start
of a line. -/
def scanPlain (inFlow : Bool) (indent : Int) : Nat → (gap : List Char) → (fresh : Bool) → Cursor →
    (List Char × Bool) × Cursor
  | 0, _, fresh, c => (([], fresh), c)
  | bound + 1, gap, fresh, c =>
    let cs := if c.peek = '#' then [] else piece inFlow c.rest
    if cs.isEmpty then (([], fresh), c)
    else
      let ((nextGap, ended), c) := scanPlainGap (c.forward cs.length)
      if nextGap.isEmpty || c.peek = '#' || (!inFlow && c.column < indent) then ((gap ++ cs, ended), c)
      else
        let ((more, fresh), c) := scanPlain inFlow indent bound nextGap ended c
        ((gap ++ cs ++ more, fresh), c)

end PointOfFocus.Data.Yaml
