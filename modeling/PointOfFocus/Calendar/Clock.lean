import PointOfFocus.Calendar.Digits

/-!
# Times of day

A time of day to the millionth of a second, with or without its distance from universal time. Hours, minutes and
seconds are written with two digits each, the later ones being optional, with colons between all of them or none;
a fraction of a second may follow. The distance is written after a sign in the same way, or is the letter `Z`.
-/

namespace PointOfFocus.Calendar

/-- A time of day. -/
structure Time where
  /-- The hour. -/
  hour : Nat
  /-- The minute. -/
  minute : Nat
  /-- The second. -/
  second : Nat
  /-- The millionths of a second. -/
  micro : Nat
deriving DecidableEq

/-- A time of day at a place, which may be known by its distance from universal time. -/
structure Clock where
  /-- The time. -/
  time : Time
  /-- The distance from universal time in millionths of a second. -/
  offset : Option Int
deriving DecidableEq

/-- The millionths of a second in a day. -/
def microsPerDay : Nat := 86400000000

/-! ### Written form -/

/-- The fraction of a second as text, if there is one. -/
def fractionText (micro : Nat) : String :=
  if micro = 0 then "" else "." ++ padded 6 micro

namespace Time

/-- Whether a day has the time. -/
def isValid (t : Time) : Bool :=
  t.hour < 24 && t.minute < 60 && t.second < 60

/-- The time as text. -/
def text (t : Time) : String :=
  padded 2 t.hour ++ ":" ++ padded 2 t.minute ++ ":" ++ padded 2 t.second ++ fractionText t.micro

end Time

/-- A distance from universal time as text: seconds are written only where there are some. -/
def offsetText (micros : Int) : String :=
  let size := micros.natAbs
  let seconds := size / 1000000
  let tail := if size % 60000000 = 0 then "" else ":" ++ padded 2 (seconds % 60) ++ fractionText (size % 1000000)
  (if micros < 0 then "-" else "+") ++ padded 2 (seconds / 3600) ++ ":" ++ padded 2 (seconds / 60 % 60) ++ tail

/-! ### Reading -/

/-- What stands after the numbers of two digits at the start of a time. -/
inductive TimeTail where
  /-- The time ends here; `exact` tells whether the text does too. -/
  | done (exact : Bool)
  /-- The digits of a fraction, of which the time has `width` characters left. -/
  | fraction (cs : List Char) (width : Nat)

/-- Whether the text ends here, as far as the end of a text is the null character. -/
def isEnd (cs : List Char) : Bool :=
  cs.headD '\x00' = '\x00'

/-- Reads at most `count` numbers of two digits. The time has `width` characters, but the text may go on. One
character after a number is overlooked at the end of the time. -/
def takePairs (separated : Bool) : (count : Nat) → List Char → (width : Nat) → Option (List Nat × TimeTail)
  | 0, cs, width => some ([], .fraction cs width)
  | count + 1, cs, width => do
    let (n, rest) ← takeNumber? 2 cs
    let width := width - 2
    if width ≤ 1 then return ([n], .done (isEnd rest))
    else
      match rest with
      | [] => none
      | c :: after =>
        if separated && c = ':' then
          let (ns, tail) ← takePairs separated count after (width - 1)
          return (n :: ns, tail)
        else if c = '.' || c = ',' then return ([n], .fraction after (width - 1))
        else if separated then none
        else
          let (ns, tail) ← takePairs separated count rest width
          return (n :: ns, tail)

/-- Reads the digits of a fraction in millionths, further digits being dropped, and tells whether the text ends. -/
def takeFraction? (cs : List Char) (width : Nat) : Option (Nat × Bool) := do
  let places := min width 6
  let (n, rest) ← takeNumber? places cs
  return (n * Nat.pow 10 (6 - places), isEnd (rest.dropWhile Char.isDigit))

/-- Reads the first `width` characters of the text as a time, and tells whether the text ends with it. -/
def Time.take? (cs : List Char) (width : Nat) : Option (Time × Bool) := do
  let (ns, tail) ← takePairs (cs[2]? = some ':') 3 cs width
  let (micro, exact) ← match tail with
    | .done exact => some (0, exact)
    | .fraction cs width => takeFraction? cs width
  return (⟨ns.getD 0 0, ns.getD 1 0, ns.getD 2 0, micro⟩, exact)

/-- Whether the character starts a distance from universal time. -/
def isOffsetMark (c : Char) : Bool :=
  c = '+' || c = '-' || c = 'Z'

namespace Clock

/-- The distance that a time after a sign stands for. A distance of less than a second is none. -/
def offsetOf? (behind : Bool) (t : Time) : Option Int :=
  let seconds := t.hour * 3600 + t.minute * 60 + t.second
  let micros := seconds * 1000000 + t.micro
  if seconds = 0 then some 0
  else if micros < microsPerDay then some (if behind then -(micros : Int) else micros)
  else none

/-- Reads a time with its distance from universal time. -/
def read? (cs : List Char) : Option Clock := do
  let width := (cs.takeWhile (!isOffsetMark ·)).length
  let (time, exact) ← Time.take? cs width
  let offset ← match cs.drop width with
    | [] => if exact then some none else none
    | 'Z' :: rest => if isEnd rest then some (some 0) else none
    | mark :: rest => do
      let (distance, exact) ← Time.take? rest rest.length
      if exact then (offsetOf? (mark = '-') distance).map some else none
  if time.isValid then some ⟨time, offset⟩ else none

/-- Reads a text that is a time, which the letter `T` may introduce. -/
def ofText? (text : String) : Option Clock :=
  match bytes text with
  | 'T' :: cs => read? cs
  | cs => read? cs

/-- The time as text. -/
def text (c : Clock) : String :=
  c.time.text ++ (c.offset.map offsetText).getD ""

end Clock

end PointOfFocus.Calendar
