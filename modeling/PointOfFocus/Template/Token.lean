import PointOfFocus.Template.Error
import PointOfFocus.Text.Blank
import PointOfFocus.Text.Identifier

/-!
# Tokens of a template

A template is text with tags in it: `{{ … }}` prints a value, `{% … %}` is a statement and `{# … #}` a
comment; what stands between the statements `raw` and `endraw` is text. A statement or comment takes the blanks before
it on its line and the line end after it; a minus sign at either end of any tag takes all blanks on that side, and a
plus sign none. Every line end of the text becomes a line feed.
-/

namespace PointOfFocus.Template

open PointOfFocus.Number
open PointOfFocus.Text

/-- What a token is. -/
inductive Mark where
  /-- Text outside of tags. -/
  | text (content : String)
  /-- The start of a tag that prints. -/
  | printStart
  /-- The end of a tag that prints. -/
  | printEnd
  /-- The start of a statement. -/
  | blockStart
  /-- The end of a statement. -/
  | blockEnd
  /-- A name. -/
  | name (word : String)
  /-- A quoted text. -/
  | string (content : String)
  /-- An integer. -/
  | integer (value : Nat)
  /-- A number with a point or an exponent. -/
  | float (value : Binary64)
  /-- An operator. -/
  | operator (symbol : String)
  /-- The end of the template. -/
  | eof
  /-- A place that no token fits. -/
  | fault (cause : Cause)

/-- A token and the line where it starts. -/
structure Token where
  /-- What the token is. -/
  mark : Mark
  /-- The line, counted from one. -/
  line : Nat

/-- How a message names a token. -/
def Mark.describe : Mark → String
  | .text _ => "template data / text"
  | .printStart => "begin of print statement"
  | .printEnd => "end of print statement"
  | .blockStart => "begin of statement block"
  | .blockEnd => "end of statement block"
  | .name word => word
  | .string _ => "string"
  | .integer _ => "integer"
  | .float _ => "float"
  | .operator symbol => symbol
  | .eof => "end of template"
  | .fault _ => "end of template"

/-- The text with every line end made a line feed. -/
def unifyLines : List Char → List Char
  | '\r' :: '\n' :: cs => '\n' :: unifyLines cs
  | '\r' :: cs => '\n' :: unifyLines cs
  | c :: cs => c :: unifyLines cs
  | [] => []

/-! ### Text between tags -/

/-- Whether a tag starts here. -/
def startsTag : List Char → Bool
  | '\x7b' :: c :: _ => c = '\x7b' || c = '%' || c = '#'
  | _ => false

/-- The text up to the next tag, and what follows it. -/
def splitAtTag : List Char → List Char × List Char
  | [] => ([], [])
  | c :: cs =>
    if startsTag (c :: cs) then ([], c :: cs)
    else
      let (text, rest) := splitAtTag cs
      (c :: text, rest)

/-- Drops the blanks after the last line end, if nothing else stands there; `fresh` tells whether the text itself
starts a line. -/
def dropIndent (fresh : Bool) (text : List Char) : List Char :=
  let tail := text.reverse.takeWhile (· ≠ '\n')
  if (fresh || text.contains '\n') && tail.all isBlank then text.take (text.length - tail.length) else text

/-- The text before a tag as it is kept, given the character that opens the tag and the sign after it. -/
def trimBefore (fresh : Bool) (kind : Char) (sign : Option Char) (text : List Char) : List Char :=
  if sign = some '-' then dropBlanksRight text
  else if sign = some '+' || kind = '\x7b' then text
  else dropIndent fresh text

/-- A sign at the start of the text, and what follows it. -/
def splitTagSign : List Char → Option Char × List Char
  | '-' :: cs => (some '-', cs)
  | '+' :: cs => (some '+', cs)
  | cs => (none, cs)

/-- A token for text, unless the text is empty. -/
def textToken (text : List Char) (line : Nat) : List Token :=
  if text.isEmpty then [] else [⟨.text (String.ofList text), line⟩]

/-! ### The ends of tags -/

/-- The length of a mark that ends a tag, with the blanks it takes: the mark's two characters are given. -/
def tagEnd? (first second : Char) (takesLine : Bool) : List Char → Option Nat
  | '-' :: a :: b :: cs =>
    if a = first && b = second then some (3 + (cs.takeWhile isBlank).length) else none
  | '+' :: a :: b :: _ => if takesLine && a = first && b = second then some 3 else none
  | a :: b :: cs =>
    if a = first && b = second then some (if takesLine && cs.head? = some '\n' then 3 else 2) else none
  | _ => none

/-- The number of characters before the mark that ends a comment. -/
def commentLength? : List Char → Option Nat
  | [] => none
  | c :: cs =>
    match tagEnd? '#' '\x7d' true (c :: cs) with
    | some _ => some 0
    | none => (commentLength? cs).map (· + 1)

/-! ### Parts that are not read -/

/-- The text after a sign, blanks, the word and blanks. -/
def afterWord? (word : String) (cs : List Char) : Option (List Char) :=
  let cs := dropBlanks cs
  if word.toList.isPrefixOf cs then some (dropBlanks (cs.drop word.length)) else none

/-- The text after the statement that starts a part that is not read, given what follows the mark of a statement and
its sign. -/
def afterRaw? (cs : List Char) : Option (List Char) :=
  match afterWord? "raw" cs with
  | some ('-' :: '%' :: '\x7d' :: rest) => some (dropBlanks rest)
  | some ('%' :: '\x7d' :: rest) => some rest
  | _ => none

/-- The text after the statement that ends a part that is not read. -/
def afterEndRaw? (cs : List Char) : Option (List Char) := do
  let rest ← afterWord? "endraw" cs
  return rest.drop (← tagEnd? '%' '\x7d' true rest)

/-- The end of a part that is not read: its text, the sign of the statement that ends it, and the text after that. -/
def splitRaw? : List Char → Option (List Char × Option Char × List Char)
  | [] => none
  | c :: cs =>
    let ending := match c :: cs with
      | '\x7b' :: '%' :: after =>
        let (sign, body) := splitTagSign after
        (afterEndRaw? body).map (([] : List Char), sign, ·)
      | _ => none
    match ending with
    | some found => some found
    | none => (splitRaw? cs).map fun (text, sign, rest) => (c :: text, sign, rest)

/-! ### Inside tags -/

/-- The length of a quoted text at the start, with its quotes. -/
def stringLength? (mark : Char) : List Char → Option Nat
  | [] => none
  | c :: cs =>
    if c = mark then some 1
    else if c = '\\' then
      match cs with
      | [] => none
      | _ :: rest => (stringLength? mark rest).map (· + 2)
    else (stringLength? mark cs).map (· + 1)

/-- The digits at the start, with single low lines between them. -/
def digitGroups (isPart : Char → Bool) : List Char → List Char
  | c :: '_' :: d :: cs =>
    if isPart c then
      if isPart d then c :: '_' :: digitGroups isPart (d :: cs) else [c]
    else []
  | c :: cs => if isPart c then c :: digitGroups isPart cs else []
  | [] => []

/-- The number of characters that write an exponent; zero if there is none. -/
def exponentLength : List Char → Nat
  | c :: cs =>
    if c = 'e' || c = 'E' then
      let sign := match cs with
        | '+' :: _ | '-' :: _ => 1
        | _ => 0
      let digits := digitGroups isDigit (cs.drop sign)
      if digits.isEmpty then 0 else 1 + sign + digits.length
    else 0
  | [] => 0

/-- The number of characters that write a number with a point or an exponent; zero if there is none. -/
def floatLength (cs : List Char) : Nat :=
  let whole := (digitGroups isDigit cs).length
  let places := match cs.drop whole with
    | '.' :: rest =>
      let digits := digitGroups isDigit rest
      if digits.isEmpty then 0 else 1 + digits.length
    | _ => 0
  let power := exponentLength (cs.drop (whole + places))
  if whole = 0 || places + power = 0 then 0 else whole + places + power

/-- The digits of an integer in another base, after the zero and the letter that announce them. -/
def basedDigits (isPart : Char → Bool) (cs : List Char) : List Char :=
  match cs with
  | '_' :: rest =>
    let digits := digitGroups isPart rest
    if digits.isEmpty then [] else '_' :: digits
  | _ => digitGroups isPart cs

/-- The value of a digit of a base up to sixteen. -/
def basedValue? (c : Char) : Option Nat :=
  (digitValue? c).orElse fun _ => hexValue? c

/-- The number that digits of a base write. -/
def basedNumber (base : Nat) (digits : List Char) : Nat :=
  digits.foldl (fun n c => if c = '_' then n else base * n + (basedValue? c).getD 0) 0

/-- The bases that are announced by a letter, with their digits. -/
def basedIntegers : List (Char × Nat × (Char → Bool)) :=
  [('b', 2, fun c => c = '0' || c = '1'), ('o', 8, fun c => '0' ≤ c && c ≤ '7'),
    ('x', 16, fun c => (basedValue? c).isSome)]

/-- An integer at the start, and the number of its characters. A decimal integer other than zero does not start with
the digit zero. -/
def integer? (cs : List Char) : Option (Nat × Nat) :=
  match cs with
  | '0' :: rest =>
    let based := basedIntegers.findSome? fun (mark, base, isPart) =>
      match rest with
      | c :: digits =>
        let written := basedDigits isPart digits
        if c.toLower = mark && !written.isEmpty then some (basedNumber base written, written.length + 2) else none
      | [] => none
    based.orElse fun _ => some (0, (digitGroups (· = '0') cs).length)
  | c :: _ =>
    if '1' ≤ c && c ≤ '9' then
      let digits := digitGroups isDigit cs
      some (basedNumber 10 digits, digits.length)
    else none
  | [] => none

/-- The operators, longer ones first. -/
def operators : List String :=
  ["//", "**", "==", "!=", ">=", "<=", "+", "-", "/", "*", "%", "~", "[", "]", "(", ")", "\x7b", "\x7d", ">", "<", "=",
    ".", ":", "|", ",", ";"]

/-- The closing bracket that an operator awaits. -/
def awaitedBracket? : String → Option Char
  | "(" => some ')'
  | "[" => some ']'
  | "\x7b" => some '\x7d'
  | _ => none

/-- The brackets that are open after an operator, innermost first. -/
def brackets (symbol : String) (opened : List Char) : Except Cause (List Char) :=
  match awaitedBracket? symbol with
  | some closing => .ok (closing :: opened)
  | none =>
    match symbol.toList, opened with
    | [c], awaited :: outer =>
      if c = ')' || c = ']' || c = '\x7d' then
        if c = awaited then .ok outer else .error (.wrongBracket c awaited)
      else .ok opened
    | [c], [] => if c = ')' || c = ']' || c = '\x7d' then .error (.unexpectedBracket c) else .ok []
    | _, _ => .ok opened

/-- A quoted text, without its quotes. -/
def stringMark (body : List Char) : Mark :=
  match readBackslashes body with
  | .ok cs => .string (String.ofList cs)
  | .error cause => .fault (.escape cause)

/-- A name. -/
def nameMark (word : List Char) : Mark :=
  if isIdentifier word then .name (String.ofList word) else .fault .badIdentifier

/-- A number with a point or an exponent. -/
def floatMark (digits : List Char) : Mark :=
  .float ((Binary64.read? (String.ofList (digits.filter (· ≠ '_')))).getD .notANumber)

/-- A token inside a tag and the number of its characters; `none` if nothing fits. A number after a point is an
integer. -/
def tagToken? (afterPoint : Bool) (cs : List Char) : Option (Option Mark × Nat) :=
  let blanks := cs.takeWhile isBlank
  let float := if afterPoint then 0 else floatLength cs
  let word := cs.takeWhile isNameChar
  if !blanks.isEmpty then some (none, blanks.length)
  else if float ≠ 0 then some (some (floatMark (cs.take float)), float)
  else match integer? cs with
    | some (n, size) => some (some (.integer n), size)
    | none =>
      if !word.isEmpty then some (some (nameMark word), word.length)
      else
        match cs with
        | [] => none
        | c :: rest =>
          if c = '\'' || c = '"' then
            (stringLength? c rest).map fun length => (some (stringMark (rest.take (length - 1))), length + 1)
          else
            (operators.find? fun symbol => symbol.toList.isPrefixOf cs).map fun symbol =>
              (some (.operator symbol), symbol.length)

/-- Where in a template a reader stands. -/
inductive Place where
  /-- In text; `fresh` tells whether a line starts here. -/
  | text (fresh : Bool)
  /-- In a part that is not read. -/
  | raw (fresh : Bool)
  /-- In a tag: whether it is a statement, the brackets that are open, and whether a point stands right before. -/
  | tag (isBlock : Bool) (opened : List Char) (afterPoint : Bool)

/-- The number of line ends. -/
def lineEnds (cs : List Char) : Nat := cs.count '\n'

/-- Whether the text ends a line. -/
def endsLine (cs : List Char) : Bool := cs.getLast? = some '\n'

/-- The tokens of what is left of a template of the given length. Every step takes at least one character. -/
def tokensFrom (length : Nat) : Nat → Place → Nat → List Char → List Token
  | 0, _, _, _ => []
  | fuel + 1, .text fresh, line, cs =>
    let (text, rest) := splitAtTag cs
    match rest with
    | _ :: kind :: after =>
      let (sign, body) := splitTagSign after
      let before := textToken (trimBefore fresh kind sign text) line
      let line := line + lineEnds text
      if kind = '#' then
        match commentLength? body with
        | some size =>
          let tail := body.drop size
          let taken := body.take (size + (tagEnd? '#' '\x7d' true tail).getD 0)
          before ++ tokensFrom length fuel (.text (endsLine taken)) (line + lineEnds taken) (body.drop taken.length)
        | none => before ++ if body.isEmpty then [] else [⟨.fault .unterminatedComment, line⟩]
      else
        match if kind = '%' then afterRaw? body else none with
        | some inside =>
          let taken := body.take (body.length - inside.length)
          before ++ tokensFrom length fuel (.raw (endsLine taken)) (line + lineEnds taken) inside
        | none =>
          let isBlock := kind = '%'
          before ++ ⟨if isBlock then .blockStart else .printStart, line⟩
            :: tokensFrom length fuel (.tag isBlock [] false) line body
    | _ => textToken text line
  | fuel + 1, .raw fresh, line, cs =>
    match splitRaw? cs with
    | some (text, sign, rest) =>
      let taken := cs.take (cs.length - rest.length)
      textToken (trimBefore fresh '%' sign text) line
        ++ tokensFrom length fuel (.text (endsLine taken)) (line + lineEnds taken) rest
    | none => if cs.isEmpty then [] else [⟨.fault .unterminatedRaw, line⟩]
  | fuel + 1, .tag isBlock opened afterPoint, line, cs =>
    let ending :=
      if !opened.isEmpty then none
      else if isBlock then tagEnd? '%' '\x7d' true cs
      else tagEnd? '\x7d' '\x7d' false cs
    match ending with
    | some size =>
      let taken := cs.take size
      ⟨if isBlock then .blockEnd else .printEnd, line⟩
        :: tokensFrom length fuel (.text (endsLine taken)) (line + lineEnds taken) (cs.drop size)
    | none =>
      match cs, tagToken? afterPoint cs with
      | [], _ => []
      | c :: _, none => [⟨.fault (.unexpectedCharacter c (length - cs.length)), line⟩]
      | _, some (none, size) =>
        tokensFrom length fuel (.tag isBlock opened false) (line + lineEnds (cs.take size)) (cs.drop size)
      | _, some (some mark, size) =>
        let next := match mark with
          | .operator symbol => brackets symbol opened
          | .fault cause => .error cause
          | _ => .ok opened
        match next with
        | .error cause => [⟨.fault cause, line⟩]
        | .ok opened =>
          ⟨mark, line⟩ :: tokensFrom length fuel (.tag isBlock opened (mark matches .operator "."))
            (line + lineEnds (cs.take size)) (cs.drop size)

/-- The tokens of a template, with the one for its end, which stands in the line of the last token before it. -/
def tokenize (text : String) : List Token :=
  let cs := unifyLines text.toList
  let tokens := tokensFrom cs.length (cs.length + 1) (.text true) 1 cs
  tokens ++ [⟨.eof, (tokens.getLast?.map (·.line)).getD 1⟩]

end PointOfFocus.Template
