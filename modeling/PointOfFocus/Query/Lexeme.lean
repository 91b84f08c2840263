import PointOfFocus.Query.Token
import PointOfFocus.Text.Blank
import PointOfFocus.Text.Word

/-!
# The rules for tokens

Each rule looks at the start of the text and tells how many characters it takes, if it applies. The rules are
tried in a fixed order and the first that applies wins: so a complete IRI comes before the point of focus, a
text in three quotes before an empty one, a prefixed name before a word, and a number with an exponent before one
without.
-/

namespace PointOfFocus.Query

open PointOfFocus.Text

/-- What the characters at the start of a text are. -/
inductive Lexeme where
  /-- Blanks or a comment, which separate tokens. -/
  | gap
  /-- A token of the given kind. -/
  | token (kind : Kind)
deriving DecidableEq

/-- The length of a run, unless it is empty. -/
def runLength? (run : List Char) : Option Nat :=
  if run.isEmpty then none else some run.length

/-- A run without the dots at its end. -/
def dropDots (run : List Char) : List Char :=
  (run.reverse.dropWhile (· = '.')).reverse

/-! ### Gaps, IRIs and texts -/

/-- The length of the blanks at the start. -/
def blanks? (cs : List Char) : Option Nat :=
  runLength? (cs.takeWhile isBlank)

/-- The length of a comment, which ends with its line. -/
def comment? : List Char → Option Nat
  | '#' :: cs => some ((cs.takeWhile (· ≠ '\n')).length + 1)
  | _ => none

/-- Whether the character may stand in an IRI between angle brackets. -/
def isIriChar (c : Char) : Bool :=
  0x20 < c.toNat && !(['<', '>', '"', '\x7b', '\x7d', '|', '^', '\x60', '\\'].contains c)

/-- The length of an IRI in angle brackets. -/
def iri? : List Char → Option Nat
  | '<' :: cs =>
    let body := cs.takeWhile isIriChar
    match cs.drop body.length with
    | '>' :: _ => some (body.length + 2)
    | _ => none
  | _ => none

/-- The length of the point of focus. -/
def marker? : List Char → Option Nat
  | '<' :: _ => some 1
  | _ => none

/-- The length of what follows the opening quote of a text on one line, with its closing quote. -/
def shortText? (mark : Char) : List Char → Option Nat
  | [] => none
  | c :: cs =>
    if c = mark then some 1
    else if c = '\\' then
      match cs with
      | [] => none
      | e :: rest => if e = '\n' then none else (shortText? mark rest).map (· + 2)
    else if c = '\n' || c = '\r' then none
    else (shortText? mark cs).map (· + 1)

/-- The length of what follows the three opening quotes of a text, with its closing quotes. -/
def longText? (mark : Char) : List Char → Option Nat
  | [] => none
  | c :: cs =>
    if [mark, mark, mark].isPrefixOf (c :: cs) then some 3
    else if c = '\\' then
      match cs with
      | [] => none
      | e :: rest => if e = '\n' then none else (longText? mark rest).map (· + 2)
    else (longText? mark cs).map (· + 1)

/-- The length of a text in three quotes of the given kind. -/
def tripleQuoted? (mark : Char) (cs : List Char) : Option Nat :=
  if [mark, mark, mark].isPrefixOf cs then (longText? mark (cs.drop 3)).map (· + 3) else none

/-- The length of a text in one quote of the given kind. -/
def singleQuoted? (mark : Char) (cs : List Char) : Option Nat :=
  if [mark].isPrefixOf cs then (shortText? mark (cs.drop 1)).map (· + 1) else none

/-- The length of a quoted text. -/
def string? (cs : List Char) : Option Nat :=
  tripleQuoted? '"' cs <|> tripleQuoted? '\'' cs <|> singleQuoted? '"' cs <|> singleQuoted? '\'' cs

/-! ### Names -/

/-- Whether the character may stand in the name of a variable. -/
def isVarChar (c : Char) : Bool :=
  c.isAlphanum || c = '_' || (0xb7 ≤ c.toNat && c.toNat ≤ 0xffff)

/-- The length of a variable. -/
def var? : List Char → Option Nat
  | c :: cs => if c = '?' || c = '$' then (runLength? (cs.takeWhile isVarChar)).map (· + 1) else none
  | [] => none

/-- Whether the character may stand inside a label. -/
def isLabelChar (c : Char) : Bool :=
  isWord c || c = '.' || c = '-'

/-- The length of a blank node with a label, which does not end in a dot. -/
def blank? : List Char → Option Nat
  | '_' :: ':' :: c :: cs =>
    if c.isAlphanum || c = '_' then some ((dropDots (cs.takeWhile isLabelChar)).length + 3) else none
  | _ => none

/-- Whether the character may stand inside the part of a prefixed name after the colon. -/
def isLocalChar (c : Char) : Bool :=
  isWord c || c = '.' || c = ':' || c = '%' || c = '-'

/-- Whether the run is the label of a prefixed name: empty, or a letter and no dot at the end. -/
def isLabel (run : List Char) : Bool :=
  match run with
  | [] => true
  | c :: _ => isWordStart c && c ≠ '_' && run.getLast? ≠ some '.'

/-- The characters after the colon that belong to a prefixed name: no dot at either end. -/
def localPart (cs : List Char) : List Char :=
  match cs.takeWhile isLocalChar with
  | '.' :: _ => []
  | run => dropDots run

/-- The length of a prefixed name. -/
def prefixedName? (cs : List Char) : Option Nat :=
  let label := cs.takeWhile isLabelChar
  match cs.drop label.length with
  | ':' :: rest => if isLabel label then some (label.length + 1 + (localPart rest).length) else none
  | _ => none

/-- The length of the further parts of a language tag, each after a hyphen. -/
def languageParts : Nat → List Char → Nat
  | 0, _ => 0
  | fuel + 1, cs =>
    match cs with
    | '-' :: rest =>
      let part := rest.takeWhile Char.isAlphanum
      if part.isEmpty then 0 else part.length + 1 + languageParts fuel (rest.drop part.length)
    | _ => 0

/-- The length of a language tag with its sign. -/
def language? : List Char → Option Nat
  | '@' :: cs =>
    let first := cs.takeWhile Char.isAlpha
    if first.isEmpty then none
    else some (first.length + 1 + languageParts cs.length (cs.drop first.length))
  | _ => none

/-- The length of a word. -/
def word? : List Char → Option Nat
  | c :: cs =>
    if isWordStart c then some ((cs.takeWhile fun c => isWord c || c = '-').length + 1) else none
  | [] => none

/-! ### Numbers and symbols -/

/-- The length of the digits at the start. -/
def digitCount (cs : List Char) : Nat :=
  (cs.takeWhile isDigit).length

/-- The length of an exponent. -/
def exponentLength? : List Char → Option Nat
  | c :: cs =>
    if c = 'e' || c = 'E' then
      let sign := if cs.head? = some '+' || cs.head? = some '-' then 1 else 0
      let digits := digitCount (cs.drop sign)
      if digits = 0 then none else some (digits + sign + 1)
    else none
  | [] => none

/-- The length of the digits before an exponent, with a point among or before them. -/
def mantissa? (cs : List Char) : Option Nat :=
  let whole := digitCount cs
  match cs.drop whole with
  | '.' :: rest =>
    let places := digitCount rest
    if whole = 0 && places = 0 then none else some (whole + 1 + places)
  | _ => if whole = 0 then none else some whole

/-- The length of a number with an exponent. -/
def double? (cs : List Char) : Option Nat := do
  let mantissa ← mantissa? cs
  let exponent ← exponentLength? (cs.drop mantissa)
  return mantissa + exponent

/-- The length of a number with a point and digits after it. -/
def decimal? (cs : List Char) : Option Nat :=
  let whole := digitCount cs
  match cs.drop whole with
  | '.' :: rest =>
    let places := digitCount rest
    if places = 0 then none else some (whole + 1 + places)
  | _ => none

/-- The length of a number of digits only. -/
def integer? (cs : List Char) : Option Nat :=
  runLength? (cs.takeWhile isDigit)

/-- The length of the mark between a text and its datatype. -/
def datatypeMark? (cs : List Char) : Option Nat :=
  if ['^', '^'].isPrefixOf cs then some 2 else none

/-- The symbols, those of two characters first. -/
def symbols : List Symbol :=
  [.both, .either, .unequal, .atLeast, .openBrace, .closeBrace, .openParen, .closeParen, .openBracket,
    .closeBracket, .semicolon, .comma, .dot, .star, .slash, .bar, .caret, .bang, .plus, .question, .equal, .greater,
    .minus]

/-- The symbol at the start. -/
def symbol? (cs : List Char) : Option Symbol :=
  symbols.find? fun symbol => symbol.text.toList.isPrefixOf cs

/-! ### All rules -/

/-- What stands at the start of the text and how many characters it takes. -/
def lexeme? (cs : List Char) : Option (Lexeme × Nat) :=
  (blanks? cs).map (Lexeme.gap, ·) <|>
  (comment? cs).map (Lexeme.gap, ·) <|>
  (iri? cs).map (Lexeme.token .iri, ·) <|>
  (marker? cs).map (Lexeme.token (.focus .none), ·) <|>
  (string? cs).map (Lexeme.token .string, ·) <|>
  (var? cs).map (Lexeme.token .var, ·) <|>
  (blank? cs).map (Lexeme.token .blank, ·) <|>
  (prefixedName? cs).map (Lexeme.token .prefixedName, ·) <|>
  (language? cs).map (Lexeme.token .language, ·) <|>
  (double? cs).map (Lexeme.token .double, ·) <|>
  (decimal? cs).map (Lexeme.token .decimal, ·) <|>
  (integer? cs).map (Lexeme.token .integer, ·) <|>
  (word? cs).map (Lexeme.token .word, ·) <|>
  (datatypeMark? cs).map (Lexeme.token .datatypeMark, ·) <|>
  (symbol? cs).map fun symbol => (Lexeme.token (.symbol symbol), symbol.text.length)

end PointOfFocus.Query
