import PointOfFocus.Text.Blank
import PointOfFocus.Text.Digit
import PointOfFocus.Text.Quoted

/-!
# Integers written in base ten

An integer is written with an optional sign and decimal digits of any script, with single low lines between
digits and blanks around it. A text of more than 4300 digits is refused, whatever follows the digits, and so is an
integer of more than 4300 digits where it is written into a query or a value of a file is turned into a text.
-/

namespace PointOfFocus.Number

open PointOfFocus.Text

/-- Why a text is not read as an integer. -/
inductive IntegerError where
  /-- The text is no integer. -/
  | malformed (text : String)
  /-- The text has more digits than are read. -/
  | tooLong (digits : Nat)
deriving DecidableEq

/-- The largest number of digits that is read or written. -/
def maxDigits : Nat := 4300

/-- The wording of the fault. -/
def IntegerError.message : IntegerError → String
  | .malformed text =>
    "invalid literal for int() with base 10: " ++ String.ofList ((quoted text).toList.take 200)
  | .tooLong digits =>
    "Exceeds the limit (" ++ maxDigits.repr ++ " digits) for integer string conversion: value has " ++ digits.repr
      ++ " digits; use sys.set_int_max_str_digits() to increase the limit"

/-- Whether the character may surround a number: the blanks other than the information separators. -/
def isPadding (c : Char) : Bool :=
  isBlank c && !(0x1c ≤ c.toNat && c.toNat ≤ 0x1f)

/-- The text without the padding around it. -/
def trimPadding (cs : List Char) : List Char :=
  ((cs.dropWhile isPadding).reverse.dropWhile isPadding).reverse

/-- Splits a sign off a number; `true` is the minus sign. -/
def splitSign : List Char → Bool × List Char
  | '-' :: cs => (true, cs)
  | '+' :: cs => (false, cs)
  | cs => (false, cs)

/-- Whether the text is made of digits with single low lines between them. -/
def isDigitRun : List Char → Bool
  | [] => false
  | [c] => isDigit c
  | c :: '_' :: cs => isDigit c && isDigitRun cs
  | c :: cs => isDigit c && isDigitRun cs

/-- The integer with the given sign and size. -/
def signed (negative : Bool) (n : Nat) : Int :=
  if negative then -(n : Int) else n

/-- Reads an integer. -/
def readInteger (text : String) : Except IntegerError Int :=
  let (negative, body) := splitSign (trimPadding text.toList)
  let isPart := fun c => isDigit c || c = '_'
  let run := body.takeWhile isPart
  let digits := run.filter (· ≠ '_')
  if !isDigitRun run then .error (.malformed text)
  else if maxDigits < digits.length then .error (.tooLong digits.length)
  else if body.dropWhile isPart ≠ [] then .error (.malformed text)
  else .ok (signed negative (digitsValue digits))

/-- An integer in decimal digits. -/
def integerText : Int → String
  | .ofNat n => n.repr
  | .negSucc n => "-" ++ (n + 1).repr

theorem integerText_ne_empty (i : Int) : integerText i ≠ "" := by
  cases i with
  | ofNat n => exact Nat.repr_ne_empty
  | negSucc n => simp [integerText]

/-- Whether an integer has no more digits than are written. -/
def isShort (i : Int) : Bool := i.natAbs.repr.length ≤ maxDigits

/-- Why an integer is not written. -/
inductive WriteError where
  /-- The integer has more digits than are written. -/
  | tooManyDigits
deriving DecidableEq

/-- The wording of the fault. -/
def WriteError.message : WriteError → String
  | .tooManyDigits =>
    "Exceeds the limit (" ++ maxDigits.repr
      ++ " digits) for integer string conversion; use sys.set_int_max_str_digits() to increase the limit"

/-- Writes an integer. -/
def writeInteger (i : Int) : Except WriteError String :=
  if isShort i then .ok (integerText i) else .error .tooManyDigits

end PointOfFocus.Number
