import PointOfFocus.Text.CharacterName
import PointOfFocus.Text.Escape
import PointOfFocus.Text.Quoted

/-!
# Backslash escapes with numbers and names

The escapes of texts that stand in a template: besides the letters for control characters there are octal and
hexadecimal numbers and the names of characters, and a backslash at the end of a line joins it to the next. A
backslash before any other character stands for itself. A character outside of ASCII is first written as an escape of
its own, so that a backslash before it is one before a backslash.
-/

namespace PointOfFocus.Text

/-- Why a text with backslashes has no meaning. -/
inductive BackslashFault where
  /-- The mark is not followed by as many hexadecimal digits as it needs. -/
  | truncated (mark : Char) (width : Nat)
  /-- The number lies above the last code point. -/
  | illegalNumber
  /-- There is no name in braces. -/
  | malformedName
  /-- No character has the name. -/
  | unknownName
deriving DecidableEq

/-- The wording of the fault. -/
def BackslashFault.message : BackslashFault → String
  | .truncated mark width =>
    "truncated \\" ++ String.ofList (mark :: List.replicate width 'X') ++ " escape"
  | .illegalNumber => "illegal Unicode character"
  | .malformedName => "malformed \\N character escape"
  | .unknownName => "unknown Unicode character name"

/-- The character as an escape, unless it is an ASCII character. -/
def asciiChar (c : Char) : List Char :=
  if c.toNat < 0x80 then [c]
  else if c.toNat < 0x100 then '\\' :: 'x' :: hexadecimal 2 c.toNat
  else if c.toNat < 0x10000 then '\\' :: 'u' :: hexadecimal 4 c.toNat
  else '\\' :: 'U' :: hexadecimal 8 c.toNat

/-- The number that up to three octal digits write, and how many of them there are. -/
def octalNumber (cs : List Char) : Nat × Nat :=
  let digits := (cs.take 3).takeWhile fun c => '0' ≤ c && c ≤ '7'
  (digits.foldl (fun n c => 8 * n + (c.toNat - '0'.toNat)) 0, digits.length)

/-- The character that a number of the given width stands for, after the letter that announces it. -/
def numberedCharacter (mark : Char) (width : Nat) (cs : List Char) : Except BackslashFault (List Char × Nat) :=
  match hexNumber? width cs with
  | none => .error (.truncated mark width)
  | some n =>
    match codePoint n with
    | .ok c => .ok ([c], width + 1)
    | .error _ => .error .illegalNumber

/-- The character that a name in braces stands for. -/
def namedCharacter : List Char → Except BackslashFault (List Char × Nat)
  | '\x7b' :: cs =>
    let name := cs.takeWhile (· ≠ '\x7d')
    if name.isEmpty || name.length = cs.length then .error .malformedName
    else match characterNamed? (String.ofList name) with
      | some c => .ok ([c], name.length + 3)
      | none => .error .unknownName
  | _ => .error .malformedName

/-- What a backslash stands for together with the characters after it, and how many of them it takes. -/
def backslash : List Char → Except BackslashFault (List Char × Nat)
  | [] => .ok (['\\'], 0)
  | c :: cs =>
    match c with
    | '\n' => .ok ([], 1)
    | '\\' | '\'' | '"' => .ok ([c], 1)
    | 'n' => .ok (['\n'], 1)
    | 'r' => .ok (['\r'], 1)
    | 't' => .ok (['\t'], 1)
    | 'a' => .ok (['\x07'], 1)
    | 'b' => .ok (['\x08'], 1)
    | 'f' => .ok (['\x0c'], 1)
    | 'v' => .ok (['\x0b'], 1)
    | 'x' => numberedCharacter 'x' 2 cs
    | 'u' => numberedCharacter 'u' 4 cs
    | 'U' => numberedCharacter 'U' 8 cs
    | 'N' => namedCharacter cs
    | _ =>
      let (n, width) := octalNumber (c :: cs)
      if width = 0 then .ok (['\\', c], 1) else .ok ([Char.ofNat n], width)

/-- Reads the text after `skip` characters that belong to an escape already read. -/
def readBackslashesFrom : Nat → List Char → Except BackslashFault (List Char)
  | _, [] => .ok []
  | skip + 1, _ :: cs => readBackslashesFrom skip cs
  | 0, c :: cs =>
    if c = '\\' then do
      let (meaning, width) ← backslash cs
      return meaning ++ (← readBackslashesFrom width cs)
    else do return c :: (← readBackslashesFrom 0 cs)

/-- The text that a text with backslashes stands for. -/
def readBackslashes (cs : List Char) : Except BackslashFault (List Char) :=
  readBackslashesFrom 0 (cs.flatMap asciiChar)

end PointOfFocus.Text
