import PointOfFocus.Calendar.Digits

/-!
# Dates

Days of the Gregorian calendar in the years 1 to 9999. A day is written as year, month and day, or as year, week
and day of the week, where the first week of a year is the one with its first Thursday. The separators may be left
out of either form.
-/

namespace PointOfFocus.Calendar

/-- A day of the calendar. -/
structure Date where
  /-- The year, from 1 to 9999. -/
  year : Nat
  /-- The month, from 1 to 12. -/
  month : Nat
  /-- The day of the month. -/
  day : Nat
deriving DecidableEq

/-- Whether the year has a 29th of February. -/
def isLeapYear (year : Nat) : Bool :=
  year % 4 = 0 && (year % 100 ≠ 0 || year % 400 = 0)

/-- The number of days of a month. -/
def daysInMonth (year month : Nat) : Nat :=
  if month = 2 then if isLeapYear year then 29 else 28
  else if month = 4 || month = 6 || month = 9 || month = 11 then 30
  else 31

/-- The number of days before the first of January of the year, counted from the year 1. -/
def daysBeforeYear (year : Nat) : Nat :=
  let past := year - 1
  past * 365 + past / 4 - past / 100 + past / 400

/-- The number of days of a year. -/
def daysInYear (year : Nat) : Nat :=
  if isLeapYear year then 366 else 365

namespace Date

/-- Whether the calendar has the day. -/
def isValid (d : Date) : Bool :=
  1 ≤ d.year && d.year ≤ 9999 && 1 ≤ d.month && d.month ≤ 12 && 1 ≤ d.day && d.day ≤ daysInMonth d.year d.month

/-- The month and the day of the month of a day of the year, counted from zero, starting with the given month. -/
def monthAndDay (year : Nat) : (tries month days : Nat) → Nat × Nat
  | 0, month, days => (month, days + 1)
  | tries + 1, month, days =>
    if days < daysInMonth year month then (month, days + 1)
    else monthAndDay year tries (month + 1) (days - daysInMonth year month)

/-- The date so many days after the first of January of the year. -/
def ofDayOfYear (year days : Nat) : Date :=
  let (month, day) := monthAndDay year 11 1 days
  ⟨year, month, day⟩

/-- The day of the week of the first of January, counted from zero for Monday. -/
def firstWeekday (year : Nat) : Nat :=
  daysBeforeYear year % 7

/-- Whether the year has a week with the number. -/
def hasWeek (year week : Nat) : Bool :=
  let first := firstWeekday year
  1 ≤ week && (week ≤ 52 || (week = 53 && (first = 3 || (first = 2 && isLeapYear year))))

/-- The date of a day of a week; the days count from 1 for Monday. -/
def ofWeek? (year week day : Nat) : Option Date :=
  if 1 ≤ year && hasWeek year week && 1 ≤ day && day ≤ 7 then
    let first := firstWeekday year
    -- days from the first of January to the Monday of the first week, plus seven
    let monday := if first ≤ 3 then 7 - first else 14 - first
    let days := monday + (week - 1) * 7 + (day - 1)
    if days < 7 then some (ofDayOfYear (year - 1) (daysInYear (year - 1) + days - 7))
    else if days - 7 < daysInYear year then some (ofDayOfYear year (days - 7))
    else some (ofDayOfYear (year + 1) (days - 7 - daysInYear year))
  else none

/-- Drops a dash, if one has to stand here. -/
def dropDash? (separated : Bool) (cs : List Char) : Option (List Char) :=
  if separated then
    match cs with
    | '-' :: cs => some cs
    | _ => none
  else some cs

/-- Reads the date at the start of a text. The date is known to end before the position `width`; what follows it is
not looked at. -/
def read? (cs : List Char) (width : Nat) : Option Date := do
  let (year, rest) ← takeNumber? 4 cs
  let separated := rest.head? = some '-'
  let rest ← dropDash? separated rest
  let date ← match rest with
    | 'W' :: rest => do
      let (week, rest) ← takeNumber? 2 rest
      if cs.length - rest.length < width then
        let (day, _) ← takeNumber? 1 (← dropDash? separated rest)
        ofWeek? year week day
      else ofWeek? year week 1
    | _ => do
      let (month, rest) ← takeNumber? 2 rest
      let (day, _) ← takeNumber? 2 (← dropDash? separated rest)
      some ⟨year, month, day⟩
  if date.isValid then some date else none

/-- Reads a text that is a date. Only three widths occur. -/
def ofText? (text : String) : Option Date :=
  let cs := bytes text
  if cs.length = 7 || cs.length = 8 || cs.length = 10 then read? cs cs.length else none

/-- The date as text. -/
def text (d : Date) : String :=
  padded 4 d.year ++ "-" ++ padded 2 d.month ++ "-" ++ padded 2 d.day

end Date

end PointOfFocus.Calendar
