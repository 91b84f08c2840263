import PointOfFocus.Number.Binary64

/-!
# Numbers as text

A floating-point number is written with the fewest decimal digits that read back as the same number, and of
those with the ones nearest to it. The digits are found by exact arithmetic: for one digit, two digits and so on,
the two neighbours of the number on that decimal grid are tried.
-/

namespace PointOfFocus.Number

/-- The number of decimal digits before the point of `num / den`, negative for leading zeros after the point. -/
def decimalMagnitude (num den : Nat) : Int :=
  if den ≤ num then (Nat.toDigits 10 (num / den)).length
  else
    let width := (Nat.toDigits 10 (den / num)).length
    if den ≤ num * Nat.pow 10 (width - 1) then 2 - (width : Int) else 1 - (width : Int)

/-- An interval of fractions with a common denominator, and whether its ends belong to it. -/
structure Interval where
  /-- The numerator of the lower end. -/
  low : Nat
  /-- The numerator of the upper end. -/
  high : Nat
  /-- The denominator of both ends. -/
  den : Nat
  /-- Whether the ends belong to the interval. -/
  closed : Bool

/-- Whether the interval has the fraction `num / den`. -/
def Interval.contains (i : Interval) (num den : Nat) : Bool :=
  if i.closed then i.low * den ≤ num * i.den && num * i.den ≤ i.high * den
  else i.low * den < num * i.den && num * i.den < i.high * den

/-- The numbers that round to `mantissa · 2 ^ exponent`. -/
def roundingInterval (mantissa : Nat) (exponent : Int) : Interval :=
  let below := if mantissa = Nat.pow 2 52 && Binary64.minExponent < exponent then 1 else 2
  let (unit, den) := scaled 2 1 1 (exponent - 2)
  ⟨(4 * mantissa - below) * unit, (4 * mantissa + 2) * unit, den, mantissa % 2 = 0⟩

/-- The decimal nearest to `num / den` among its two neighbours on the grid of `10 ^ power` that lie in the
interval. -/
def nearestOnGrid? (i : Interval) (num den : Nat) (power : Int) : Option Nat :=
  let (unit, unitDen) := scaled 10 1 1 power
  let lower := num * unitDen / (den * unit)
  let hit := fun c => i.contains (c * unit) unitDen
  match hit lower, hit (lower + 1) with
  | true, true =>
    let rest := num * unitDen - lower * (den * unit)
    if 2 * rest < den * unit || (2 * rest = den * unit && lower % 2 = 0) then some lower else some (lower + 1)
  | true, false => some lower
  | false, true => some (lower + 1)
  | false, false => none

/-- The first grid, from `digits` digits on, with a decimal in the interval: that decimal and its power of ten. -/
def shortestFrom (i : Interval) (num den : Nat) (magnitude : Int) : Nat → Nat → Nat × Int
  | _, 0 => (0, 0)
  | digits, tries + 1 =>
    let power := magnitude - digits
    match nearestOnGrid? i num den power with
    | some c => (c, power)
    | none => shortestFrom i num den magnitude (digits + 1) tries

/-- Moves the zeros at the end of the digits into the power of ten. -/
def dropZeros : Nat → Nat → Int → Nat × Int
  | 0, c, power => (c, power)
  | tries + 1, c, power =>
    if c ≠ 0 && c % 10 = 0 then dropZeros tries (c / 10) (power + 1) else (c, power)

/-- The shortest digits of a positive number and the power of ten of their last place. Seventeen digits always
suffice. -/
def shortestDigits (mantissa : Nat) (exponent : Int) : Nat × Int :=
  let (num, den) := scaled 2 mantissa 1 exponent
  let (c, power) :=
    shortestFrom (roundingInterval mantissa exponent) num den (decimalMagnitude num den) 1 17
  dropZeros 17 c power

/-- Lays digits out with a point, or with an exponent when the point would stand before the fourth zero or after
the sixteenth digit. -/
def layout (digits : List Char) (power : Int) : List Char :=
  let point : Int := digits.length + power
  if -4 < point && point ≤ 16 then
    if point ≤ 0 then '0' :: '.' :: (List.replicate (-point).toNat '0' ++ digits)
    else if digits.length ≤ point.toNat then
      digits ++ List.replicate (point.toNat - digits.length) '0' ++ ['.', '0']
    else digits.take point.toNat ++ '.' :: digits.drop point.toNat
  else
    let exponent := point - 1
    let mark := if exponent < 0 then '-' else '+'
    let fraction := if digits.length ≤ 1 then [] else '.' :: digits.drop 1
    digits.take 1 ++ fraction ++ ['e', mark] ++ (Nat.toDigits 10 exponent.natAbs).leftpad 2 '0'

namespace Binary64

/-- The shortest text that reads back as the number. -/
def text : Binary64 → String
  | .finite negative mantissa exponent =>
    let body :=
      if mantissa = 0 then ['0', '.', '0']
      else
        let (c, power) := shortestDigits mantissa exponent
        layout (Nat.toDigits 10 c) power
    String.ofList (if negative then '-' :: body else body)
  | .infinite negative => if negative then "-inf" else "inf"
  | .notANumber => "nan"

/-- The number rounded to a fixed count of places; a tie goes to the even digit. -/
def fixed (places : Nat) : Binary64 → String
  | .finite negative mantissa exponent =>
    let (num, den) := scaled 2 mantissa 1 exponent
    let body := withPoint places (roundDiv (num * Nat.pow 10 places) den)
    String.ofList (if negative then '-' :: body else body)
  | x => x.text

end Binary64

end PointOfFocus.Number
