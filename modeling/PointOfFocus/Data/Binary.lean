import PointOfFocus.Text.Escape
import PointOfFocus.Text.Quoted

/-!
# Bytes as text

Two ways to write bytes with ASCII characters: two hexadecimal digits for each byte, and four characters out of 64
for every three bytes. Reading the latter overlooks characters that do not belong to it.
-/

namespace PointOfFocus.Data

open PointOfFocus.Text

/-! ### Hexadecimal digits -/

/-- Reads two hexadecimal digits for each byte. -/
def hexBytes? : List Char → Option (List Nat)
  | [] => some []
  | [_] => none
  | c :: d :: cs => do
    let byte := 16 * (← hexValue? c) + (← hexValue? d)
    return byte :: (← hexBytes? cs)

/-- Writes two hexadecimal digits for each byte. -/
def hexText (bytes : List Nat) : String :=
  String.ofList (bytes.flatMap (hexadecimal 2))

/-! ### Four characters for three bytes -/

/-- The 64 characters, in the order of their values. -/
def sixBitChars : List Char :=
  "ABCDEFGHIJKLMNOPQRSTUVWXYZabcdefghijklmnopqrstuvwxyz0123456789+/".toList

/-- The value of one of the 64 characters. -/
def sixBits? (c : Char) : Option Nat :=
  sixBitChars.idxOf? c

/-- Reads characters after `place` of a group of four, of which `left` bits were not used yet and `pads` padding
characters were seen since. Padding ends the text when it completes a group. -/
def base64From : (place left pads : Nat) → List Char → Option (List Nat)
  | place, _, _, [] => if place = 0 then some [] else none
  | place, left, pads, c :: cs =>
    if c = '=' then
      if 2 ≤ place && 4 ≤ place + pads + 1 then some []
      else base64From place left (if 2 ≤ place then pads + 1 else pads) cs
    else
      match sixBits? c with
      | none => base64From place left pads cs
      | some n =>
        match place with
        | 0 => base64From 1 n 0 cs
        | 1 => (base64From 2 (n % 16) 0 cs).map ((left * 4 + n / 16) :: ·)
        | 2 => (base64From 3 (n % 4) 0 cs).map ((left * 16 + n / 4) :: ·)
        | _ => (base64From 0 0 0 cs).map ((left * 64 + n) :: ·)

/-- Reads bytes written with 64 characters and padding. A character outside ASCII is no part of such a text. -/
def base64Bytes? (cs : List Char) : Option (List Nat) :=
  if cs.all (·.toNat < 128) then base64From 0 0 0 cs else none

/-- The character with a value below 64. -/
def sixBitChar (n : Nat) : Char := sixBitChars.getD n '='

/-- Writes four characters for every three bytes, with padding at the end. -/
def base64Chars : List Nat → List Char
  | [] => []
  | [a] => [sixBitChar (a / 4), sixBitChar (a % 4 * 16), '=', '=']
  | [a, b] => [sixBitChar (a / 4), sixBitChar (a % 4 * 16 + b / 16), sixBitChar (b % 16 * 4), '=']
  | a :: b :: c :: rest =>
    sixBitChar (a / 4) :: sixBitChar (a % 4 * 16 + b / 16) :: sixBitChar (b % 16 * 4 + c / 64)
      :: sixBitChar (c % 64) :: base64Chars rest

/-- The bytes as text with 64 characters. -/
def base64Text (bytes : List Nat) : String :=
  String.ofList (base64Chars bytes)

/-! ### In messages -/

/-- A byte as it stands between the given quotes. -/
def quoteByte (mark : Char) (byte : Nat) : List Char :=
  let c := Char.ofNat byte
  if byte < 128 then quoteChar mark c else '\\' :: 'x' :: hexadecimal 2 byte

/-- The bytes between quotes, after the letter that tells them from a text. -/
def quotedBytes (bytes : List Nat) : String :=
  let mark := quoteFor (bytes.map Char.ofNat)
  String.ofList ('b' :: mark :: bytes.flatMap (quoteByte mark) ++ [mark])

end PointOfFocus.Data
