import PointOfFocus.Data.Value
import PointOfFocus.Data.Yaml.Token
import PointOfFocus.Data.Yaml.Tag

/-!
# Values of YAML scalars

What a scalar of a given tag stands for. Numbers may be written in several bases, also in base sixty with colons between
the digits, and low lines in them mean nothing. A scalar that looks like a date need not be one.
-/

namespace PointOfFocus.Data.Yaml

open PointOfFocus.Calendar
open PointOfFocus.Number
open PointOfFocus.Text

/-- Why the calendar has no such date or time. -/
inductive CalendarError where
  /-- There is no such year. -/
  | year (n : Nat)
  /-- There is no such month. -/
  | month
  /-- The month has no such day. -/
  | day
  /-- There is no such hour. -/
  | hour
  /-- There is no such minute. -/
  | minute
  /-- There is no such second. -/
  | second
  /-- No place is so far from universal time. -/
  | offset (micros : Int)
deriving DecidableEq

/-- The wording of the fault. -/
def CalendarError.message : CalendarError → String
  | .year n => "year " ++ n.repr ++ " is out of range"
  | .month => "month must be in 1..12"
  | .day => "day is out of range for month"
  | .hour => "hour must be in 0..23"
  | .minute => "minute must be in 0..59"
  | .second => "second must be in 0..59"
  | .offset micros =>
    "offset must be a timedelta strictly between -timedelta(hours=24) and timedelta(hours=24), not "
      ++ Value.innerDistance micros ++ "."

/-- Why a text has no value. -/
inductive ReadError where
  /-- The text is not YAML. -/
  | malformed
  /-- An escape names a number that is no code point. -/
  | escape (cause : EscapeError)
  /-- A text is no integer. -/
  | integer (cause : IntegerError)
  /-- A text is no integer in the given base. -/
  | radix (base : Nat) (text : String)
  /-- A text is no floating-point number. -/
  | float (text : String)
  /-- The calendar has no such date or time. -/
  | calendar (cause : CalendarError)
  /-- A word is no truth value. -/
  | truth (word : String)
  /-- A number has no digits. -/
  | noDigits
  /-- A text is no date. -/
  | noDate
deriving DecidableEq

/-- The wording of the fault. -/
def ReadError.message : ReadError → String
  | .malformed => "malformed"
  | .escape cause => cause.message
  | .integer cause => cause.message
  | .radix base text => "invalid literal for int() with base " ++ base.repr ++ ": " ++ quoted text
  | .float text => notANumberMessage text
  | .calendar cause => cause.message
  | .truth word => quoted word
  | .noDigits => "string index out of range"
  | .noDate => "'NoneType' object has no attribute 'groupdict'"

/-- The fault of a text without tokens. -/
def ReadError.ofScan : ScanError → ReadError
  | .malformed => .malformed
  | .escape cause => .escape cause

/-! ### Numbers -/

/-- The number that digits write in the base. -/
def radixValue? (base : Nat) (digits : List Char) : Option Nat :=
  if digits.isEmpty then none
  else digits.foldlM (fun n c => (hexValue? c).bind fun d => if d < base then some (base * n + d) else none) 0

/-- An integer in the base, which is 2, 8 or 16. -/
def readRadix (base : Nat) (cs : List Char) : Except ReadError Int :=
  match radixValue? base cs with
  | some n => .ok n
  | none => .error (.radix base (String.ofList cs))

/-- An integer in base ten. -/
def readTen (cs : List Char) : Except ReadError Int :=
  (readInteger (String.ofList cs)).mapError .integer

/-- A floating-point number. -/
def readFraction (cs : List Char) : Except ReadError Binary64 :=
  match Binary64.read? (String.ofList cs) with
  | some x => .ok x
  | none => .error (.float (String.ofList cs))

/-- The text of a number without low lines, split into its sign and the rest, which is not empty. -/
def signAndBody (text : String) : Except ReadError (Bool × List Char) :=
  match splitSign (text.toList.filter (· ≠ '_')) with
  | (_, []) => .error .noDigits
  | parts => .ok parts

/-- The integer that a scalar stands for. -/
def intValue (text : String) : Except ReadError Int := do
  let (negative, body) ← signAndBody text
  let size ← match body with
    | ['0'] => pure 0
    | '0' :: 'b' :: digits => readRadix 2 digits
    | '0' :: 'x' :: digits => readRadix 16 digits
    | '0' :: _ => readRadix 8 body
    | _ =>
      if body.contains ':' then do
        let digits ← (body.splitOnP (· = ':')).mapM readTen
        pure (digits.foldl (fun n d => 60 * n + d) 0)
      else readTen body
  return if negative then -size else size

/-- A number in base sixty: the digits from the last one on, each with its weight. -/
def sixtyValue (digits : List Binary64) : Binary64 :=
  (digits.foldl (fun (sum, weight) d => (Binary64.add sum (d.mul (Binary64.ofInt weight)), weight * 60))
    (Binary64.ofInt 0, (1 : Int))).1

/-- The floating-point number that a scalar stands for. -/
def floatValue (text : String) : Except ReadError Binary64 := do
  let (negative, body) ← signAndBody text
  let body := lowerAscii body
  let size ←
    if body = ".inf".toList then pure (.infinite false)
    else if body = ".nan".toList then pure .notANumber
    else if body.contains ':' then do
      let digits ← (body.splitOnP (· = ':')).mapM readFraction
      pure (sixtyValue digits.reverse)
    else readFraction body
  return if negative then size.neg else size

/-- The truth value that a scalar stands for. -/
def truthValue (text : String) : Except ReadError Bool :=
  let word := String.ofList (lowerAscii text.toList)
  if ["yes", "true", "on"].contains word then .ok true
  else if ["no", "false", "off"].contains word then .ok false
  else .error (.truth word)

/-! ### Dates -/

/-- The number at the start of a text. -/
def leadingNumber (cs : List Char) : Nat := digitsValue (cs.takeWhile Char.isDigit)

/-- Checks a date. -/
def checkDate (d : Date) : Except CalendarError Date :=
  if d.year = 0 then .error (.year 0)
  else if d.month = 0 || 12 < d.month then .error .month
  else if d.day = 0 || daysInMonth d.year d.month < d.day then .error .day
  else .ok d

/-- Checks a time. -/
def checkTime (t : Time) : Except CalendarError Time :=
  if 23 < t.hour then .error .hour
  else if 59 < t.minute then .error .minute
  else if 59 < t.second then .error .second
  else .ok t

/-- The distance from universal time at the end of a moment. -/
def offsetValue (cs : List Char) : Except CalendarError (Option Int) :=
  match cs.dropWhile fun d => d = ' ' || d = '\t' with
  | [] => .ok none
  | ['Z'] => .ok (some 0)
  | mark :: rest =>
    let minutes := (rest.dropWhile Char.isDigit).drop 1
    let micros : Int := (leadingNumber rest * 60 + leadingNumber minutes) * 60000000
    let micros := if mark = '-' then -micros else micros
    if micros.natAbs < microsPerDay then .ok (some micros) else .error (.offset micros)

/-- The date or the moment that a text of the right form stands for. -/
def timestampValue (cs : List Char) : Except CalendarError Value := do
  let afterYear := cs.drop 5
  let afterMonth := (afterYear.dropWhile Char.isDigit).drop 1
  let date : Date := ⟨leadingNumber cs, leadingNumber afterYear, leadingNumber afterMonth⟩
  match Tag.dropDateGap? (afterMonth.dropWhile Char.isDigit) with
  | none => return .date (← checkDate date)
  | some hour =>
    let minute := (hour.dropWhile Char.isDigit).drop 1
    let second := minute.drop 3
    let rest := second.drop 2
    let (fraction, offset) := match rest with
      | '.' :: rest => (rest.takeWhile Char.isDigit, rest.dropWhile Char.isDigit)
      | _ => ([], rest)
    let micro := digitsValue ((fraction ++ List.replicate 6 '0').take 6)
    let offset ← offsetValue offset
    let time : Time := ⟨leadingNumber hour, leadingNumber minute, leadingNumber second, micro⟩
    return .moment ⟨← checkDate date, ⟨← checkTime time, offset⟩⟩

/-- Whether the text has the form of a date or of a moment, where months and days may have one digit. -/
def isTimestamp (cs : List Char) : Bool :=
  Tag.looksLikeTimestamp cs || Tag.dropDate? cs = some []

/-! ### All scalars -/

/-- What a scalar of a tag stands for. -/
def scalarValue (tag : Tag) (text : String) : Except ReadError Value :=
  match tag with
  | .null => .ok .null
  | .bool => (truthValue text).map .bool
  | .int => (intValue text).map .int
  | .float => (floatValue text).map .float
  | .str => .ok (.text text)
  | .binary =>
    match base64Bytes? text.toList with
    | some bs => .ok (.bytes bs)
    | none => .error .malformed
  | .timestamp =>
    if isTimestamp text.toList then (timestampValue text.toList).mapError .calendar else .error .noDate
  | _ => .error .malformed

end PointOfFocus.Data.Yaml
