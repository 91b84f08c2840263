import PointOfFocus.Calendar.Moment
import PointOfFocus.Number.Binary64

/-!
# Durations

A span of time has a calendar part, counted in months, and an exact part, counted in millionths of a second. It is
written as `P1Y2M3DT4H5M6S`, with zero parts left out. Weeks, fractions and parts above their usual range are read
too; a fraction of an exact part is rounded once to millionths of a second.

The calendar part and the sum of the exact parts keep all of their digits. An implementation that adds them as decimals of
28 digits agrees as long as no more digits are needed; how it rounds beyond that is left out.
-/

namespace PointOfFocus.Calendar

open PointOfFocus.Number

/-- A span of time. -/
structure Duration where
  /-- The months, or nothing for a span without a calendar part. -/
  months : Option Scientific
  /-- The millionths of a second. -/
  micros : Int
deriving DecidableEq

/-! ### Reading -/

/-- The parts of a written span, from years to seconds, each as its digits. -/
structure DurationParts where
  /-- Whether the span is negative. -/
  negative : Bool
  /-- The years. -/
  years : Scientific
  /-- The months. -/
  months : Scientific
  /-- The numbers of seconds, minutes, hours, days and weeks, in this order. -/
  exact : List Binary64

/-- Digits, which may have a fraction after a point or a comma, before the given letter. -/
def takePart (unit : Char) (cs : List Char) : Option (Scientific × List Char) := do
  let whole := cs.takeWhile Char.isDigit
  let rest := cs.dropWhile Char.isDigit
  if whole.isEmpty then none
  let (places, rest) ← match rest with
    | mark :: after =>
      if mark = '.' || mark = ',' then
        let places := after.takeWhile Char.isDigit
        if places.isEmpty then none else some (places, after.dropWhile Char.isDigit)
      else some ([], rest)
    | [] => none
  match rest with
  | c :: rest =>
    if c = unit then some (⟨false, Text.digitsValue (whole ++ places), -(places.length : Int)⟩, rest) else none
  | [] => none

/-- A part that may be missing, which then is zero. -/
def optionalPart (unit : Char) (cs : List Char) : Scientific × List Char :=
  (takePart unit cs).getD (⟨false, 0, 0⟩, cs)

/-- Reads the parts of a span. -/
def DurationParts.read? (cs : List Char) : Option DurationParts := do
  let (negative, cs) := splitSign cs
  match cs with
  | 'P' :: cs =>
    let next := cs.headD ' '
    if !(next.isDigit || next = 'T') then none
    let (years, cs) := optionalPart 'Y' cs
    let (months, cs) := optionalPart 'M' cs
    let (weeks, cs) := optionalPart 'W' cs
    let (days, cs) := optionalPart 'D' cs
    let (hours, minutes, seconds, cs) := match cs with
      | 'T' :: cs =>
        let (hours, cs) := optionalPart 'H' cs
        let (minutes, cs) := optionalPart 'M' cs
        let (seconds, cs) := optionalPart 'S' cs
        (hours, minutes, seconds, cs)
      | _ => (⟨false, 0, 0⟩, ⟨false, 0, 0⟩, ⟨false, 0, 0⟩, cs)
    if cs = [] || cs = ['\n'] then
      return ⟨negative, years, months, [seconds, minutes, hours, days, weeks].map Binary64.ofScientific⟩
    else none
  | _ => none

/-- The millionths of a second in a second, a minute, an hour, a day and a week. -/
def microsPerUnit : List Nat :=
  [1000000, 60000000, 3600000000, 86400000000, 604800000000]

/-- Adds so many units to a sum: the whole millionths of a second, and what is left of them. -/
def addUnits? (sum : Int × Binary64) (part : Binary64 × Nat) : Option (Int × Binary64) := do
  let (total, left) := sum
  let (amount, unit) := part
  let (whole, fraction) ← amount.parts?
  let total := total + whole * unit
  if fraction.isZero then return (total, left)
  else
    let (whole, fraction) ← (fraction.mul (Binary64.ofInt unit)).parts?
    return (total + whole, left.add fraction)

/-- What is left of a sum, rounded so that a tie makes the sum even. -/
def roundLeft (total : Int) : Binary64 → Int
  | .finite negative mantissa exponent =>
    let (num, den) := scaled 2 mantissa 1 exponent
    let (whole, rest) := (num / den, num % den)
    let up := den < 2 * rest || (2 * rest = den && (total + whole) % 2 ≠ 0)
    signed negative (if up then whole + 1 else whole)
  | _ => 0

/-- The largest number of days of a span. -/
def maxDays : Nat := 999999999

/-- The exact part of a span, if it is not too long. -/
def exactMicros? (parts : List Binary64) : Option Int := do
  let (total, left) ← (parts.zip microsPerUnit).foldlM addUnits? (0, Binary64.ofInt 0)
  let total := total + roundLeft total left
  let day := Int.fdiv total microsPerDay
  if -(maxDays : Int) ≤ day && day ≤ maxDays then some total else none

/-- The sum of two decimals that are not negative, with all of its digits. -/
def sumOf (x y : Scientific) : Scientific :=
  let exponent := min x.exponent y.exponent
  let units := fun (z : Scientific) => z.coefficient * Nat.pow 10 (z.exponent - exponent).toNat
  ⟨false, units x + units y, exponent⟩

namespace Duration

/-- Reads a span as a date and a time after the letter `P`. -/
def ofMoment? (cs : List Char) : Option Duration := do
  let m ← Moment.ofText? (String.ofList cs)
  let t := m.clock.time
  let seconds := ((m.date.day * 24 + t.hour) * 60 + t.minute) * 60 + t.second
  return ⟨some ⟨false, m.date.year * 12 + m.date.month, 0⟩, seconds * 1000000 + t.micro⟩

/-- Reads a span of time. -/
def ofText? (text : String) : Option Duration :=
  let cs := text.toList
  match DurationParts.read? cs with
  | some parts => do
    let micros ← exactMicros? parts.exact
    let micros := if parts.negative then -micros else micros
    if parts.years.coefficient = 0 && parts.months.coefficient = 0 then return ⟨none, micros⟩
    else
      let months := sumOf { parts.years with coefficient := 12 * parts.years.coefficient } parts.months
      return ⟨some { months with negative := parts.negative }, micros⟩
  | none =>
    match cs with
    | 'P' :: rest => ofMoment? rest
    | _ => none

/-! ### Written form -/

/-- A number with its unit, unless it is zero. -/
def partText (n : Nat) (unit : String) : String :=
  if n = 0 then "" else n.repr ++ unit

/-- The calendar part: whole years, and months with their fraction. -/
def calendarText (months : Scientific) : String :=
  let places := (-months.exponent).toNat
  let units := months.coefficient * Nat.pow 10 months.exponent.toNat
  let year := 12 * Nat.pow 10 places
  partText (units / year) "Y"
    ++ (if units % year = 0 then "" else String.ofList (withPoint places (units % year)) ++ "M")

/-- Seconds with their fraction, which ends with a digit that is not zero. -/
def secondsText (micros : Nat) : String :=
  let fraction := ((padded 6 (micros % 1000000)).toList.reverse.dropWhile (· = '0')).reverse
  if micros = 0 then ""
  else (micros / 1000000).repr ++ (if fraction.isEmpty then "" else "." ++ String.ofList fraction) ++ "S"

/-- The exact part: days, and after the letter `T` hours, minutes and seconds. -/
def exactText (micros : Nat) : String :=
  let minutes := micros / 60000000
  let time := partText (minutes / 60 % 24) "H" ++ partText (minutes % 60) "M" ++ secondsText (micros % 60000000)
  partText (minutes / 1440) "D" ++ (if time = "" then "" else "T" ++ time)

/-- The span as text. -/
def text (d : Duration) : String :=
  let negative := d.micros < 0 || (d.months.map (·.negative)).getD false
  let body := (d.months.map calendarText).getD "" ++ exactText d.micros.natAbs
  (if negative then "-" else "") ++ "P" ++ (if body = "" then "0D" else body)

/-- An exact span in days and a time, of which only the days can be negative. -/
def elapsedText (micros : Int) : String :=
  let days := Int.fdiv micros microsPerDay
  let rest := (micros - days * microsPerDay).toNat
  let noun := if days.natAbs = 1 then " day, " else " days, "
  let minutes := rest / 60000000
  (if days = 0 then "" else integerText days ++ noun)
    ++ (minutes / 60).repr ++ ":" ++ padded 2 (minutes % 60) ++ ":" ++ padded 2 (rest / 1000000 % 60)
    ++ (if rest % 1000000 = 0 then "" else "." ++ padded 6 (rest % 1000000))

/-- The span in words: its years and months, and the rest in days and a time. -/
def wordText (d : Duration) : String :=
  let months := (d.months.map fun m => signed m.negative (m.coefficient * Nat.pow 10 m.exponent.toNat)).getD 0
  let sign : Int := if months < 0 then -1 else 1
  let years := sign * (months.natAbs / 12 : Nat)
  let left := sign * (months.natAbs % 12 : Nat)
  ", ".intercalate ((if years = 0 then [] else [integerText years ++ " years"])
    ++ (if left = 0 then [] else [integerText left ++ (if left ≤ 1 then " month" else " months")])
    ++ [elapsedText d.micros])

/-- Whether the span counts as true: only an exact span can be empty. -/
def isTrue (d : Duration) : Bool :=
  d.months.isSome || d.micros ≠ 0

end Duration

end PointOfFocus.Calendar
