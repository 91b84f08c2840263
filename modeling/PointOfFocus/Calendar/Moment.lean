import PointOfFocus.Calendar.Clock
import PointOfFocus.Calendar.Date

/-!
# Moments

A date and a time of day, with any one character between them in the written form. Where the date ends has to be
found out first, since its separators may be missing and its week form has two widths.
-/

namespace PointOfFocus.Calendar

/-- A time of day on a date. -/
structure Moment where
  /-- The date. -/
  date : Date
  /-- The time. -/
  clock : Clock
deriving DecidableEq

namespace Moment

/-- The position at which the date of a moment ends. -/
def dateWidth? (cs : List Char) : Option Nat :=
  if cs.length < 7 then none
  else if cs.length = 7 then some 7
  else if cs[4]? = some '-' then
    if cs[5]? = some 'W' then
      if cs[8]? = some '-' then
        if cs.length = 9 then none
        else if (cs[10]?.map Char.isDigit).getD false then some 8
        else some 10
      else some 8
    else some 10
  else if cs[4]? = some 'W' then
    let stop := 7 + ((cs.drop 7).takeWhile Char.isDigit).length
    if stop < 9 then some stop else if stop % 2 = 0 then some 7 else some 8
  else some 8

/-- The number of bytes of the character that starts with the byte. -/
def charWidth (c : Char) : Nat :=
  if c.toNat < 0x80 then 1
  else if c.toNat / 16 = 0xe then 3
  else if c.toNat / 16 = 0xf then 4
  else 2

/-- Reads a moment; a date alone is its first instant. -/
def ofText? (text : String) : Option Moment := do
  let cs := bytes text
  let width ← dateWidth? cs
  let date ← Date.read? cs width
  match cs.drop width with
  | [] => return ⟨date, ⟨⟨0, 0, 0, 0⟩, none⟩⟩
  | mark :: rest => return ⟨date, ← Clock.read? (rest.drop (charWidth mark - 1))⟩

/-- The moment as text, with the given separator. -/
def textWith (separator : String) (m : Moment) : String :=
  m.date.text ++ separator ++ m.clock.text

/-- The moment as text. -/
def text (m : Moment) : String := m.textWith "T"

end Moment

end PointOfFocus.Calendar
