/-!
# Escapes in string literals

Between double quotes a query writes the backslash, the double quote and the two line ends with a backslash.
Reading is more liberal: besides the one-letter escapes it knows four and eight hexadecimal digits after `u` and
`U`, and a backslash before any other character is dropped.
-/

namespace PointOfFocus.Text

/-- Why an escaped text has no meaning: it names a number that is no code point. -/
inductive EscapeError where
  /-- The number lies above the last code point. -/
  | notACodePoint
  /-- The number does not even fit in 31 bits. -/
  | tooLarge
deriving DecidableEq

/-- The wording of the fault. -/
def EscapeError.message : EscapeError → String
  | .notACodePoint => "chr() arg not in range(0x110000)"
  | .tooLarge => "Python int too large to convert to C int"

/-- A character as it stands between double quotes. -/
def escapeChar (c : Char) : List Char :=
  if c = '\\' || c = '"' then ['\\', c]
  else if c = '\n' then ['\\', 'n']
  else if c = '\r' then ['\\', 'r']
  else [c]

/-- The text as it stands between double quotes. -/
def escape (cs : List Char) : List Char :=
  cs.flatMap escapeChar

/-- The value of a hexadecimal digit. -/
def hexValue? (c : Char) : Option Nat :=
  if '0' ≤ c && c ≤ '9' then some (c.toNat - '0'.toNat)
  else if 'a' ≤ c && c ≤ 'f' then some (c.toNat - 'a'.toNat + 10)
  else if 'A' ≤ c && c ≤ 'F' then some (c.toNat - 'A'.toNat + 10)
  else none

/-- The number that the first `width` characters write in hexadecimal, if they are all digits. -/
def hexNumber? : Nat → List Char → Option Nat
  | width, cs => go width cs 0
where
  /-- Reads `width` more digits after a number read so far. -/
  go : Nat → List Char → Nat → Option Nat
    | 0, _, n => some n
    | _ + 1, [], _ => none
    | width + 1, c :: cs, n => do go width cs (16 * n + (← hexValue? c))

/-- A numeric escape, after its backslash: the number and how many characters write it. -/
def numericEscape? : List Char → Option (Nat × Nat)
  | 'u' :: cs => (hexNumber? 4 cs).map (·, 5)
  | 'U' :: cs => (hexNumber? 8 cs).map (·, 9)
  | _ => none

/-- The character that a backslash and this one stand for. -/
def namedEscape : Char → Char
  | 't' => '\t'
  | 'n' => '\n'
  | 'r' => '\r'
  | 'b' => '\x08'
  | 'f' => '\x0c'
  | c => c

/-- The character with the given number. The characters of a text are scalar values of Unicode here, so a surrogate, which
a text made of code points could hold, becomes the replacement character, and two texts with different surrogates in the
same places are read as one. -/
def codePoint (n : Nat) : Except EscapeError Char :=
  if 0x80000000 ≤ n then .error .tooLarge
  else if 0x110000 ≤ n then .error .notACodePoint
  else if n.isValidChar then .ok (Char.ofNat n)
  else .ok '\ufffd'

/-- Reads the text after `skip` characters that belong to an escape already read. -/
def unescapeFrom : Nat → List Char → Except EscapeError (List Char)
  | _, [] => .ok []
  | skip + 1, _ :: cs => unescapeFrom skip cs
  | 0, c :: cs =>
    if c = '\\' then
      match numericEscape? cs with
      | some (n, width) => do
        let c ← codePoint n
        return c :: (← unescapeFrom width cs)
      | none =>
        match cs with
        | [] => .ok ['\\']
        | e :: _ => do return namedEscape e :: (← unescapeFrom 1 cs)
    else do return c :: (← unescapeFrom 0 cs)

/-- The text that an escaped text stands for. -/
def unescape (cs : List Char) : Except EscapeError (List Char) :=
  unescapeFrom 0 cs

end PointOfFocus.Text
