import PointOfFocus.Text.CodePoints

/-!
# Tags of YAML nodes

A tag says what a node stands for. Nodes without a tag get one: collections by their kind, and scalars without quotes by
what they look like. What looks like a number is told without being read, so the tag of a text says nothing about
whether the text has a value.
-/

namespace PointOfFocus.Data.Yaml

/-- The kind of a node. -/
inductive Kind where
  /-- A scalar. -/
  | scalar
  /-- A list. -/
  | sequence
  /-- A mapping. -/
  | mapping
deriving DecidableEq

/-- What a node stands for. -/
inductive Tag where
  /-- The absent value. -/
  | null
  /-- A truth value. -/
  | bool
  /-- An integer. -/
  | int
  /-- A floating-point number. -/
  | float
  /-- Bytes. -/
  | binary
  /-- A date or a moment. -/
  | timestamp
  /-- A list of pairs without a key that occurs twice. -/
  | omap
  /-- A list of pairs. -/
  | pairs
  /-- A set. -/
  | set
  /-- A text. -/
  | str
  /-- A list. -/
  | seq
  /-- A mapping. -/
  | map
  /-- The key under which entries of other mappings are taken over. -/
  | merge
  /-- The key of the value that a mapping stands for. -/
  | value
  /-- A tag without a meaning. -/
  | other
deriving DecidableEq

/-- The handles of tags that are known without a declaration. -/
def defaultHandles : List (String × String) := [("!", "!"), ("!!", "tag:yaml.org,2002:")]

namespace Tag

/-- The tags by their names. -/
def names : List (String × Tag) :=
  [("null", null), ("bool", bool), ("int", int), ("float", float), ("binary", binary), ("timestamp", timestamp),
    ("omap", omap), ("pairs", pairs), ("set", set), ("str", str), ("seq", seq), ("map", map), ("merge", merge),
    ("value", value)]

/-- The tag with the given full name. -/
def ofName (name : String) : Tag :=
  ((names.find? fun entry => "tag:yaml.org,2002:" ++ entry.1 = name).map (·.2)).getD other

/-! ### What scalars look like -/

/-- The words for truth values. -/
def truthWords : List String :=
  ["yes", "Yes", "YES", "no", "No", "NO", "true", "True", "TRUE", "false", "False", "FALSE", "on", "On", "ON", "off",
    "Off", "OFF"]

/-- The text without a sign at its start. -/
def dropSign : List Char → List Char
  | '-' :: cs | '+' :: cs => cs
  | cs => cs

/-- Whether the character is a digit or a low line. -/
def isDigitOrLine (c : Char) : Bool := c.isDigit || c = '_'

/-- Whether the text is empty or an exponent with a sign. -/
def isExponent : List Char → Bool
  | [] => true
  | e :: mark :: digits =>
    (e = 'e' || e = 'E') && (mark = '-' || mark = '+') && !digits.isEmpty && digits.all Char.isDigit
  | _ => false

/-- Whether the text is one or two digits that write a number below sixty. -/
def isSixtieth : List Char → Bool
  | [c] => c.isDigit
  | [c, d] => '0' ≤ c && c ≤ '5' && d.isDigit
  | _ => false

/-- Whether the text is a digit that passes a test, followed by digits and low lines. -/
def isRun (first : Char → Bool) : List Char → Bool
  | [] => false
  | c :: cs => first c && cs.all isDigitOrLine

/-- Whether the text looks like a floating-point number. -/
def looksLikeFloat (cs : List Char) : Bool :=
  let body := dropSign cs
  let whole := body.takeWhile (· ≠ '.')
  let fraction := (body.dropWhile (· ≠ '.')).drop 1
  let places := fraction.takeWhile isDigitOrLine
  let rest := fraction.dropWhile isDigitOrLine
  let hasPoint := body.contains '.'
  let parts := whole.splitOnP (· = ':')
  (hasPoint && isRun Char.isDigit whole && isExponent rest)
    || (cs.head? = some '.' && isRun Char.isDigit places && isExponent rest)
    || (hasPoint && 1 < parts.length && isRun Char.isDigit (parts.headD []) && parts.tail.all isSixtieth
      && rest.isEmpty)
    || [".inf", ".Inf", ".INF"].any (·.toList = body)
    || [".nan", ".NaN", ".NAN"].any (·.toList = cs)

/-- Whether the text has a character and all its characters pass a test. -/
def isAll (test : Char → Bool) (cs : List Char) : Bool := !cs.isEmpty && cs.all test

/-- Whether the character is a hexadecimal digit. -/
def isHexDigit (c : Char) : Bool :=
  c.isDigit || ('a' ≤ c && c ≤ 'f') || ('A' ≤ c && c ≤ 'F')

/-- Whether the text looks like an integer. -/
def looksLikeInt (cs : List Char) : Bool :=
  let body := dropSign cs
  match body with
  | '0' :: 'b' :: digits => isAll (fun c => c = '0' || c = '1' || c = '_') digits
  | '0' :: 'x' :: digits => isAll (fun c => isHexDigit c || c = '_') digits
  | '0' :: digits => digits.all fun c => ('0' ≤ c && c ≤ '7') || c = '_'
  | _ =>
    let parts := body.splitOnP (· = ':')
    isRun (fun c => '1' ≤ c && c ≤ '9') (parts.headD []) && parts.tail.all isSixtieth

/-- Drops the next `least` to `most` digits, if there are so many. -/
def dropDigits? (least most : Nat) (cs : List Char) : Option (List Char) :=
  let digits := (cs.take most).takeWhile Char.isDigit
  if least ≤ digits.length then some (cs.drop digits.length) else none

/-- Drops a character. -/
def dropChar? (c : Char) : List Char → Option (List Char)
  | d :: cs => if c = d then some cs else none
  | [] => none

/-- Drops what stands between a date and a time: the letter `T`, or spaces and tabs. -/
def dropDateGap? : List Char → Option (List Char)
  | 'T' :: cs | 't' :: cs => some cs
  | c :: cs =>
    if c = ' ' || c = '\t' then some (cs.dropWhile fun d => d = ' ' || d = '\t') else none
  | [] => none

/-- Whether the text is a distance from universal time, or none. -/
def isOffset (cs : List Char) : Bool :=
  match cs.dropWhile fun d => d = ' ' || d = '\t' with
  | [] => cs.isEmpty
  | ['Z'] => true
  | mark :: rest =>
    (mark = '-' || mark = '+') &&
      match dropDigits? 1 2 rest with
      | some [] => true
      | some (':' :: rest) => dropDigits? 2 2 rest = some []
      | _ => false

/-- What follows a date of four digits and two times one or two digits. -/
def dropDate? (cs : List Char) : Option (List Char) := do
  let cs ← dropDigits? 4 4 cs
  let cs ← dropDigits? 1 2 (← dropChar? '-' cs)
  dropDigits? 1 2 (← dropChar? '-' cs)

/-- What follows a time after a date: a distance from universal time, if there is something. -/
def dropTime? (cs : List Char) : Option (List Char) := do
  let cs ← dropDigits? 1 2 (← dropDateGap? cs)
  let cs ← dropDigits? 2 2 (← dropChar? ':' cs)
  let cs ← dropDigits? 2 2 (← dropChar? ':' cs)
  match cs with
  | '.' :: cs => return cs.dropWhile Char.isDigit
  | cs => return cs

/-- Whether the text looks like a date or a moment. -/
def looksLikeTimestamp (cs : List Char) : Bool :=
  match dropDate? cs with
  | some [] => cs.length = 10
  | some rest => ((dropTime? rest).map isOffset).getD false
  | none => false

/-- The tag of a scalar without quotes. -/
def resolve (text : String) : Tag :=
  let cs := text.toList
  if truthWords.contains text then bool
  else if looksLikeFloat cs then float
  else if looksLikeInt cs then int
  else if text = "<<" then merge
  else if ["~", "null", "Null", "NULL", ""].contains text then null
  else if looksLikeTimestamp cs then timestamp
  else if text = "=" then value
  else if ["!", "&", "*"].contains text then other
  else str

/-- The tag of a scalar, given the one that is written, if there is one. A lone exclamation mark is none. -/
def ofScalar (tag : Option String) (text : String) (plain : Bool) : Tag :=
  match tag with
  | none => if plain then resolve text else str
  | some "!" => resolve text
  | some name => ofName name

/-- The tag of a list or a mapping, given the one that is written, if there is one. -/
def ofCollection (tag : Option String) (kind : Kind) : Tag :=
  match tag with
  | none | some "!" => if kind = .sequence then seq else map
  | some name => ofName name

end Tag

end PointOfFocus.Data.Yaml
