import PointOfFocus.Number.Integer
import PointOfFocus.Query.Lexeme
import PointOfFocus.Text.CodePoints
import PointOfFocus.Text.Escape
import PointOfFocus.Text.UpperCase

/-!
# The terminals of the query language

The smallest parts of a query, by the rules of the query language. These are not the tokens of a query under
construction: names have characters of their own, digits are those of ASCII, and a text knows eight escapes only.

Each rule looks at the start of a text and tells how many characters it takes, if it applies.
-/

namespace PointOfFocus.Query.Validity

open PointOfFocus.Text

/-! ### Names -/

/-- The letters with which a label starts. -/
def letters : CodePoints := [
  (0x41, 0x5a), (0x61, 0x7a), (0xc0, 0xd6), (0xd8, 0xf6), (0xf8, 0x2ff), (0x370, 0x37d), (0x37f, 0x1fff),
  (0x200c, 0x200d), (0x2070, 0x218f), (0x2c00, 0x2fef), (0x3001, 0xd7ff), (0xf900, 0xfdcf), (0xfdf0, 0xfffd),
  (0x10000, 0xeffff)]

/-- The characters with which any other name starts. -/
def nameStarts : CodePoints := (0x30, 0x39) :: (0x5f, 0x5f) :: letters

/-- The characters that may follow in the name of a variable. -/
def variableParts : CodePoints := (0xb7, 0xb7) :: (0x300, 0x36f) :: (0x203f, 0x2040) :: nameStarts

/-- The characters that may follow in any other name. -/
def nameParts : CodePoints := (0x2d, 0x2d) :: variableParts

/-- The length of a variable with its sign. -/
def variableLength? : List Char → Option Nat
  | mark :: c :: cs =>
    if (mark = '?' || mark = '$') && nameStarts.contains c then
      some ((cs.takeWhile variableParts.contains).length + 2)
    else none
  | _ => none

/-- The length of the rest of a name that may hold dots, but does not end in one. -/
def nameTail (cs : List Char) : Nat :=
  (dropDots (cs.takeWhile fun c => c = '.' || nameParts.contains c)).length

/-- The length of a blank node with a label. -/
def blankNode? : List Char → Option Nat
  | '_' :: ':' :: c :: cs => if nameStarts.contains c then some (nameTail cs + 3) else none
  | _ => none

/-- The length of the label of a prefixed name, which may be empty. -/
def labelLength : List Char → Nat
  | c :: cs => if letters.contains c then nameTail cs + 1 else 0
  | [] => 0

/-- The length of a label with its colon. -/
def labelWithColon? (cs : List Char) : Option Nat :=
  match cs.drop (labelLength cs) with
  | ':' :: _ => some (labelLength cs + 1)
  | _ => none

/-- The characters that stand after a backslash in a prefixed name. -/
def nameEscapes : List Char := "_~.-!$&\"'()*+,;=/?#@%".toList

/-- The length of the rest of a prefixed name after its first part behind the colon: no bare dot at the end. -/
def localTail : List Char → Nat
  | '%' :: a :: b :: cs => if (hexValue? a).isSome && (hexValue? b).isSome then localTail cs + 3 else 0
  | '\\' :: c :: cs => if nameEscapes.contains c then localTail cs + 2 else 0
  | '.' :: cs => if localTail cs = 0 then 0 else localTail cs + 1
  | c :: cs => if c = ':' || nameParts.contains c then localTail cs + 1 else 0
  | [] => 0

/-- The length of what stands behind the colon of a prefixed name; it may be empty. -/
def localLength (cs : List Char) : Nat :=
  match cs with
  | '%' :: _ => localTail cs
  | '\\' :: _ => localTail cs
  | c :: _ => if c = ':' || nameStarts.contains c then localTail cs else 0
  | [] => 0

/-- The length of a prefixed name. -/
def prefixed? (cs : List Char) : Option Nat :=
  (labelWithColon? cs).map fun length => length + localLength (cs.drop length)

/-! ### Texts -/

/-- The characters that stand after a backslash in a text. -/
def textEscapes : List Char := ['t', 'b', 'n', 'r', 'f', '"', '\'', '\\']

/-- The length of what follows the opening quote of a text on one line, with its closing quote. A second quote must
not follow the closing one. -/
def shortTail? (mark : Char) : List Char → Option Nat
  | [] => none
  | '\\' :: c :: cs => if textEscapes.contains c then (shortTail? mark cs).map (· + 2) else none
  | c :: cs =>
    if c = mark then if cs.head? = some mark then none else some 1
    else if c = '\\' || c = '\n' || c = '\r' then none
    else (shortTail? mark cs).map (· + 1)

/-- The length of what follows the three opening quotes of a text, with its closing quotes. -/
def longTail? (mark : Char) : List Char → Option Nat
  | [] => none
  | '\\' :: c :: cs => if textEscapes.contains c then (longTail? mark cs).map (· + 2) else none
  | c :: cs =>
    if [mark, mark, mark].isPrefixOf (c :: cs) then some 3
    else if c = '\\' then none
    else (longTail? mark cs).map (· + 1)

/-- The length of a text in one quote of the given kind. -/
def shortText (mark : Char) (cs : List Char) : Option Nat :=
  if [mark].isPrefixOf cs then (shortTail? mark (cs.drop 1)).map (· + 1) else none

/-- The length of a text in three quotes of the given kind. -/
def longText (mark : Char) (cs : List Char) : Option Nat :=
  if [mark, mark, mark].isPrefixOf cs then (longTail? mark (cs.drop 3)).map (· + 3) else none

/-- The length of a text in quotes. -/
def text? (cs : List Char) : Option Nat :=
  longText '\'' cs <|> longText '"' cs <|> shortText '\'' cs <|> shortText '"' cs

/-! ### Numbers -/

/-- The length of the digits at the start. -/
def digitRun (cs : List Char) : Nat := (cs.takeWhile Char.isDigit).length

/-- The length of a number of digits only. -/
def whole? (cs : List Char) : Option Nat := if digitRun cs = 0 then none else some (digitRun cs)

/-- The length of a number with digits after a point. -/
def fraction? (cs : List Char) : Option Nat :=
  match cs.drop (digitRun cs) with
  | '.' :: rest => (whole? rest).map (· + digitRun cs + 1)
  | _ => none

/-- The length of an exponent. -/
def exponent? : List Char → Option Nat
  | 'e' :: cs | 'E' :: cs =>
    let sign := if cs.head? = some '+' || cs.head? = some '-' then 1 else 0
    (whole? (cs.drop sign)).map (· + sign + 1)
  | _ => none

/-- The length of the digits before an exponent: at least one, and a point among, before or behind them. -/
def significand? (cs : List Char) : Option Nat :=
  let digits := digitRun cs
  match cs.drop digits with
  | '.' :: rest => if digits = 0 then (whole? rest).map (· + 1) else some (digits + 1 + digitRun rest)
  | _ => whole? cs

/-- The length of a number with an exponent. -/
def scientific? (cs : List Char) : Option Nat := do
  let length ← significand? cs
  return length + (← exponent? (cs.drop length))

/-- The length of a number without a sign. -/
def unsigned? (cs : List Char) : Option Nat := scientific? cs <|> fraction? cs <|> whole? cs

/-- The length of a number, with or without a sign. Only a number of digits that can be negated has a minus sign. -/
def number? (cs : List Char) : Option Nat :=
  match cs with
  | '+' :: rest => (unsigned? rest).map (· + 1)
  | '-' :: rest =>
    match scientific? rest <|> fraction? rest with
    | some length => some (length + 1)
    | none => ((whole? rest).filter (· ≤ Number.maxDigits)).map (· + 1)
  | _ => unsigned? cs

/-! ### Keywords -/

/-- Whether the character, in upper case, goes on with a keyword next to it. -/
def joinsKeyword (c : Char) : Bool :=
  match upperChar c with
  | [u] => u.isAlphanum || u = '_' || u = '$'
  | _ => false

/-- The length of a keyword, in any case, where no letter stands right before or right behind it. -/
def keyword? (word : String) (before : Option Char) (cs : List Char) : Option Nat :=
  let length := word.length
  if (cs.take length).flatMap upperChar = word.toList && !before.any joinsKeyword
      && !(cs.drop length).head?.any joinsKeyword then some length
  else none

/-! ### All terminals -/

/-- A smallest part of a query. -/
inductive Terminal where
  /-- A given sign. -/
  | sign (mark : String)
  /-- A keyword, given in upper case. -/
  | keyword (word : String)
  /-- An IRI in angle brackets. -/
  | iri
  /-- A label with a colon, as it is declared. -/
  | label
  /-- A prefixed name. -/
  | prefixed
  /-- A variable. -/
  | var
  /-- A blank node with a label. -/
  | blankNode
  /-- A text in quotes. -/
  | text
  /-- A language tag. -/
  | language
  /-- A number of digits only. -/
  | integer
  /-- A number. -/
  | number

/-- The length of the terminal at the start of a text; the character before it matters for keywords. -/
def Terminal.length? (t : Terminal) (before : Option Char) (cs : List Char) : Option Nat :=
  match t with
  | .sign mark => if mark.toList.isPrefixOf cs then some mark.length else none
  | .keyword word => keyword? word before cs
  | .iri => iri? cs
  | .label => labelWithColon? cs
  | .prefixed => prefixed? cs
  | .var => variableLength? cs
  | .blankNode => blankNode? cs
  | .text => text? cs
  | .language => language? cs
  | .integer => whole? cs
  | .number => number? cs

/-- The labels that the terminal at the start of a text makes use of. -/
def Terminal.labels (t : Terminal) (cs : List Char) : List String :=
  match t with
  | .prefixed => [String.ofList (cs.take (labelLength cs))]
  | _ => []

end PointOfFocus.Query.Validity
