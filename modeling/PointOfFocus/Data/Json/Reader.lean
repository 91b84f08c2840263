import PointOfFocus.Data.Value
import PointOfFocus.Text.Escape
import PointOfFocus.Text.Position

/-!
# Reading JSON

A reader for one JSON value with nothing but blanks around it. The names `NaN`, `Infinity` and `-Infinity` are
numbers too, and of two entries with one name the later counts. A fault is reported with the place in the text
where the reader stood; each function below reports it by the number of characters that were left, which does
not depend on what came before.
-/

namespace PointOfFocus.Data.Json

open PointOfFocus.Number
open PointOfFocus.Text

/-- What is wrong with a text that is not JSON. -/
inductive Fault where
  /-- A value should stand here. -/
  | value
  /-- The name of an entry should stand here. -/
  | name
  /-- A colon should stand here. -/
  | colon
  /-- A comma should stand here. -/
  | comma
  /-- The value is followed by more text. -/
  | extra
  /-- The string that starts here has no end. -/
  | unterminated
  /-- A control character stands in a string. -/
  | control
  /-- A backslash is followed by a character that is no escape. -/
  | escape
  /-- The letter `u` is not followed by four hexadecimal digits. -/
  | unicode
  /-- The text starts with a byte order mark. -/
  | byteOrderMark
deriving DecidableEq

/-- The wording of a fault. -/
def Fault.message : Fault → String
  | .value => "Expecting value"
  | .name => "Expecting property name enclosed in double quotes"
  | .colon => "Expecting ':' delimiter"
  | .comma => "Expecting ',' delimiter"
  | .extra => "Extra data"
  | .unterminated => "Unterminated string starting at"
  | .control => "Invalid control character at"
  | .escape => "Invalid \\escape"
  | .unicode => "Invalid \\uXXXX escape"
  | .byteOrderMark => "Unexpected UTF-8 BOM (decode using utf-8-sig)"

/-- A fault and the number of characters left where it was found, or a number with too many digits. -/
inductive Stop where
  /-- A fault with `left` characters to go. -/
  | fault (cause : Fault) (left : Nat)
  /-- An integer that is too long to be read. -/
  | number (cause : IntegerError)

/-- The text without the blanks at its start. -/
def skipBlanks (cs : List Char) : List Char :=
  cs.dropWhile fun c => c = ' ' || c = '\t' || c = '\n' || c = '\r'

/-! ### Strings -/

/-- The character that a one-letter escape stands for. -/
def escaped? : Char → Option Char
  | '"' => some '"'
  | '\\' => some '\\'
  | '/' => some '/'
  | 'b' => some '\x08'
  | 'f' => some '\x0c'
  | 'n' => some '\n'
  | 'r' => some '\r'
  | 't' => some '\t'
  | _ => none

/-- Whether the code unit is the first of a pair. -/
def isHighUnit (n : Nat) : Bool := 0xd800 ≤ n && n < 0xdc00

/-- Whether the code unit is the second of a pair. -/
def isLowUnit (n : Nat) : Bool := 0xdc00 ≤ n && n < 0xe000

/-- The character with the number. Half of a pair, which a text made of code points could hold on its own, becomes the
replacement character, so texts with different halves in the same places are read as one. -/
def unitChar (n : Nat) : Char :=
  if n.isValidChar then Char.ofNat n else '\ufffd'

/-- Reads four hexadecimal digits, given what follows the letter `u`; at least one more character must be left. -/
def readUnit (cs : List Char) : Except Stop (Nat × List Char) :=
  if cs.length ≤ 4 then .error (.fault .unicode (cs.length + 1))
  else match hexNumber? 4 cs with
    | some n => .ok (n, cs.drop 4)
    | none => .error (.fault .unicode (cs.length + 1))

/-- Reads a character written by code units, given what follows the letter `u`. -/
def readUnits (cs : List Char) : Except Stop (Char × List Char) := do
  let (high, rest) ← readUnit cs
  match rest with
  | '\\' :: 'u' :: more =>
    if isHighUnit high && 5 ≤ more.length then
      let (low, after) ← readUnit more
      if isLowUnit low then
        return (unitChar (0x10000 + (high - 0xd800) * 0x400 + (low - 0xdc00)), after)
      else return (unitChar high, rest)
    else return (unitChar high, rest)
  | _ => return (unitChar high, rest)

/-- Reads the rest of a string whose opening quote stood where `start` characters were left. -/
def readStringFrom (start : Nat) : Nat → List Char → List Char → Except Stop (String × List Char)
  | 0, _, cs => .error (.fault .unterminated cs.length)
  | _ + 1, _, [] => .error (.fault .unterminated start)
  | fuel + 1, done, c :: cs =>
    if c = '"' then .ok (String.ofList done.reverse, cs)
    else if c = '\\' then
      match cs with
      | [] => .error (.fault .unterminated start)
      | 'u' :: rest => do
        let (c, rest) ← readUnits rest
        readStringFrom start fuel (c :: done) rest
      | e :: rest => match escaped? e with
        | some c => readStringFrom start fuel (c :: done) rest
        | none => .error (.fault .escape (cs.length + 1))
    else if c.toNat < 0x20 then .error (.fault .control (cs.length + 1))
    else readStringFrom start fuel (c :: done) cs

/-- Reads a string, given what follows its opening quote. -/
def readString (cs : List Char) : Except Stop (String × List Char) :=
  readStringFrom (cs.length + 1) (cs.length + 1) [] cs

/-! ### Numbers -/

/-- Whether the character is an ASCII digit. -/
def isAsciiDigit (c : Char) : Bool := '0' ≤ c && c ≤ '9'

/-- The characters of a fraction at the start of the text, if there is one. -/
def fractionPart (cs : List Char) : List Char :=
  match cs with
  | '.' :: rest =>
    let digits := rest.takeWhile isAsciiDigit
    if digits.isEmpty then [] else '.' :: digits
  | _ => []

/-- The characters of an exponent at the start of the text, if there is one. -/
def exponentPart (cs : List Char) : List Char :=
  match cs with
  | mark :: rest =>
    if mark = 'e' || mark = 'E' then
      let sign := rest.take 1 |>.filter fun c => c = '+' || c = '-'
      let digits := (rest.drop sign.length).takeWhile isAsciiDigit
      if digits.isEmpty then [] else mark :: (sign ++ digits)
    else []
  | [] => []

/-- The digits of an integer at the start of the text: a zero alone, or digits that start with no zero. -/
def wholePart (cs : List Char) : List Char :=
  match cs with
  | '0' :: _ => ['0']
  | _ => cs.takeWhile isAsciiDigit

/-- Reads a number. -/
def readNumber (cs : List Char) : Except Stop (Value × List Char) :=
  let sign := cs.take 1 |>.filter (· = '-')
  let rest := cs.drop sign.length
  let whole := wholePart rest
  let rest := rest.drop whole.length
  let fraction := fractionPart rest
  let rest := rest.drop fraction.length
  let exponent := exponentPart rest
  let rest := rest.drop exponent.length
  if whole.isEmpty then .error (.fault .value cs.length)
  else if fraction.isEmpty && exponent.isEmpty then
    match readInteger (String.ofList (sign ++ whole)) with
    | .ok i => .ok (.int i, rest)
    | .error cause => .error (.number cause)
  else
    let x := Binary64.read? (String.ofList (sign ++ whole ++ fraction ++ exponent))
    .ok (.float (x.getD .notANumber), rest)

/-! ### Values -/

/-- The names that stand for values. -/
def constants : List (String × Value) :=
  [("null", .null), ("true", .bool true), ("false", .bool false), ("NaN", .float .notANumber),
    ("Infinity", .float (.infinite false)), ("-Infinity", .float (.infinite true))]

/-- Reads a value that is neither a string nor a list nor a mapping. -/
def readScalar (cs : List Char) : Except Stop (Value × List Char) :=
  match constants.find? (·.1.toList.isPrefixOf cs) with
  | some constant => .ok (constant.2, cs.drop constant.1.length)
  | none => readNumber cs

mutual

/-- Reads a value at the start of the text. -/
def readValue : Nat → List Char → Except Stop (Value × List Char)
  | 0, cs => .error (.fault .value cs.length)
  | fuel + 1, cs =>
    match cs with
    | '"' :: rest => do
      let (s, rest) ← readString rest
      return (.text s, rest)
    | '[' :: rest =>
      match skipBlanks rest with
      | ']' :: rest => .ok (.list [], rest)
      | rest => do
        let (items, rest) ← readItems fuel rest
        return (.list items, rest)
    | '\x7b' :: rest =>
      match skipBlanks rest with
      | '\x7d' :: rest => .ok (.dict [], rest)
      | rest => do
        let (entries, rest) ← readEntries fuel [] rest
        return (.dict entries, rest)
    | _ => readScalar cs

/-- Reads the items of a list, up to its closing bracket. -/
def readItems : Nat → List Char → Except Stop (List Value × List Char)
  | 0, cs => .error (.fault .value cs.length)
  | fuel + 1, cs => do
    let (v, rest) ← readValue fuel cs
    match skipBlanks rest with
    | ']' :: rest => return ([v], rest)
    | ',' :: rest =>
      let (vs, rest) ← readItems fuel (skipBlanks rest)
      return (v :: vs, rest)
    | rest => .error (.fault .comma rest.length)

/-- Reads the entries of a mapping after those already read, up to its closing brace. -/
def readEntries : Nat → List (String × Value) → List Char → Except Stop (List (String × Value) × List Char)
  | 0, _, cs => .error (.fault .value cs.length)
  | fuel + 1, done, cs =>
    match cs with
    | '"' :: rest => do
      let (key, rest) ← readString rest
      match skipBlanks rest with
      | ':' :: rest =>
        let (v, rest) ← readValue fuel (skipBlanks rest)
        let done := setEntry done key v
        match skipBlanks rest with
        | '\x7d' :: rest => return (done, rest)
        | ',' :: rest => readEntries fuel done (skipBlanks rest)
        | rest => .error (.fault .comma rest.length)
      | rest => .error (.fault .colon rest.length)
    | _ => .error (.fault .name cs.length)

end

/-- Why a text is not read as JSON: a fault at an offset, or an integer that is too long. -/
inductive ReadError where
  /-- A fault at an offset. -/
  | fault (cause : Fault) (offset : Nat)
  /-- An integer that is too long to be read. -/
  | number (cause : IntegerError)

/-- The wording of the error, given the text that was read. -/
def ReadError.message (text : List Char) : ReadError → String
  | .fault cause offset =>
    let position := positionAt text offset
    cause.message ++ ": line " ++ position.line.repr ++ " column " ++ position.column.repr
      ++ " (char " ++ offset.repr ++ ")"
  | .number cause => cause.message

/-- Reads a text that holds one value. Two steps for each character suffice. -/
def read (text : List Char) : Except ReadError Value :=
  let locate := fun (stop : Stop) => match stop with
    | .fault cause left => ReadError.fault cause (text.length - left)
    | .number cause => .number cause
  match text with
  | '\ufeff' :: _ => .error (.fault .byteOrderMark 0)
  | _ =>
    match readValue (2 * text.length + 2) (skipBlanks text) with
    | .error stop => .error (locate stop)
    | .ok (v, rest) =>
      match skipBlanks rest with
      | [] => .ok v
      | rest => .error (.fault .extra (text.length - rest.length))

end PointOfFocus.Data.Json
