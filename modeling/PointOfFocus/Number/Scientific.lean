import PointOfFocus.Number.Integer

/-!
# Decimal numbers

A decimal number is an integer coefficient and a power of ten. The two are kept as they are written, so that
`1.50` and `1.5` differ and plain notation gives back every written place.
-/

namespace PointOfFocus.Number

open PointOfFocus.Text

/-- The number `coefficient · 10 ^ exponent`, with its sign apart. -/
structure Scientific where
  /-- Whether there is a minus sign. -/
  negative : Bool
  /-- The digits, read as one number. -/
  coefficient : Nat
  /-- The power of ten. -/
  exponent : Int
deriving DecidableEq

/-- The exponent after the digits of a number: nothing, or the letter `e`, a sign and digits. -/
def exponent? : List Char → Option Int
  | [] => some 0
  | c :: cs =>
    if c = 'e' || c = 'E' then
      let (negative, digits) := splitSign cs
      if !digits.isEmpty && digits.all isDigit then some (signed negative (digitsValue digits)) else none
    else none

/-- Reads digits with at most one point among them and an optional exponent, after an optional sign. -/
def Scientific.read? (cs : List Char) : Option Scientific := do
  let (negative, body) := splitSign cs
  let whole := body.takeWhile isDigit
  let rest := body.dropWhile isDigit
  let (places, rest) := match rest with
    | '.' :: cs => (cs.takeWhile isDigit, cs.dropWhile isDigit)
    | _ => ([], rest)
  if whole.isEmpty && places.isEmpty then none
  else
    let shift ← exponent? rest
    return ⟨negative, digitsValue (whole ++ places), shift - places.length⟩

/-- The digits of a number with the point before the last `places` of them. -/
def withPoint (places : Nat) (n : Nat) : List Char :=
  let digits := (Nat.toDigits 10 n).leftpad (places + 1) '0'
  let whole := digits.length - places
  if places = 0 then digits else digits.take whole ++ '.' :: digits.drop whole

/-- The number without an exponent, with all of its written places. -/
def Scientific.plain (x : Scientific) : List Char :=
  let body := match x.exponent with
    | .ofNat e => if x.coefficient = 0 then ['0'] else withPoint 0 (x.coefficient * Nat.pow 10 e)
    | .negSucc e => withPoint (e + 1) x.coefficient
  if x.negative then '-' :: body else body

/-! ### Decimals that are not numbers -/

/-- What a decimal literal denotes. -/
inductive Decimal where
  /-- A number. -/
  | finite (value : Scientific)
  /-- An infinity. -/
  | infinite (negative : Bool)
  /-- Not a number, with the digits that tell one such value from another. -/
  | undefined (negative signaling : Bool) (payload : Nat)
deriving DecidableEq

/-- An ASCII text in lower case. -/
def lowerAscii (cs : List Char) : List Char :=
  cs.map Char.toLower

/-- Reads a word for infinity or for an undefined value, with the digits after the latter. -/
def specialDecimal? (negative : Bool) (cs : List Char) : Option Decimal :=
  let word := lowerAscii (cs.takeWhile (!isDigit ·))
  let digits := cs.dropWhile (!isDigit ·)
  if digits.isEmpty && (word = "inf".toList || word = "infinity".toList) then some (.infinite negative)
  else if digits.all isDigit then
    if word = "nan".toList then some (.undefined negative false (digitsValue digits))
    else if word = "snan".toList then some (.undefined negative true (digitsValue digits))
    else none
  else none

/-- The largest power of ten of a decimal's first digit. -/
def maxDecimalPower : Int := 999999999999999999

/-- The smallest power of ten of a decimal's last digit. -/
def minDecimalPower : Int := -1999999999999999997

/-- Whether the powers of ten of a decimal's first and last digit are in range. -/
def Scientific.isDecimal (x : Scientific) : Bool :=
  let digits := (Nat.toDigits 10 x.coefficient).length
  minDecimalPower ≤ x.exponent && x.exponent + digits - 1 ≤ maxDecimalPower

/-- Reads a decimal literal: blanks around it and low lines anywhere are dropped. -/
def Decimal.read? (text : String) : Option Decimal :=
  let cs := (trimBlanks text.toList).filter (· ≠ '_')
  match Scientific.read? cs with
  | some value => if value.isDecimal then some (.finite value) else none
  | none =>
    let (negative, body) := splitSign cs
    specialDecimal? negative body

/-- Whether the decimal is a zero. -/
def Decimal.isZero : Decimal → Bool
  | .finite value => value.coefficient = 0
  | _ => false

/-- The decimal in plain notation. -/
def Decimal.plain : Decimal → String
  | .finite value => String.ofList value.plain
  | .infinite negative => (if negative then "-" else "") ++ "Infinity"
  | .undefined negative signaling payload =>
    (if negative then "-" else "") ++ (if signaling then "sNaN" else "NaN")
      ++ (if payload = 0 then "" else payload.repr)

/-- The number with an exponent where plain notation would need zeros that are not written, or more than five zeros
after the point. -/
def Scientific.compact (x : Scientific) : List Char :=
  let digits := Nat.toDigits 10 x.coefficient
  let left : Int := x.exponent + digits.length
  let body :=
    if x.exponent ≤ 0 && -6 < left then withPoint x.exponent.natAbs x.coefficient
    else
      let power := left - 1
      let sign := if power < 0 then "-" else "+"
      digits.take 1 ++ (if digits.length = 1 then [] else '.' :: digits.drop 1)
        ++ ("E" ++ sign ++ power.natAbs.repr).toList
  if x.negative then '-' :: body else body

/-- The decimal in compact notation. -/
def Decimal.compact : Decimal → String
  | .finite value => String.ofList value.compact
  | d => d.plain

end PointOfFocus.Number
