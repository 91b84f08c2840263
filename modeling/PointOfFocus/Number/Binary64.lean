import PointOfFocus.Number.Scientific

/-!
# Binary floating-point numbers

The values of the 64-bit binary format as exact numbers: an integer mantissa of at most 53 bits times a power of
two. Every value here is the nearest one to some fraction, with ties going to the even mantissa, so all rounding
is one function on natural numbers.
-/

namespace PointOfFocus.Number

/-- A value of the 64-bit binary format. -/
inductive Binary64 where
  /-- The number `mantissa · 2 ^ exponent`, with its sign. -/
  | finite (negative : Bool) (mantissa : Nat) (exponent : Int)
  /-- An infinity. -/
  | infinite (negative : Bool)
  /-- The result that is no number. -/
  | notANumber
deriving DecidableEq

/-- The integer nearest to `num / den`; a tie goes to the even neighbour. -/
def roundDiv (num den : Nat) : Nat :=
  let quotient := num / den
  let rest := num % den
  if 2 * rest < den then quotient
  else if den < 2 * rest then quotient + 1
  else if quotient % 2 = 0 then quotient else quotient + 1

/-- The fraction `num / den` multiplied by a power of the base. -/
def scaled (base num den : Nat) (power : Int) : Nat × Nat :=
  match power with
  | .ofNat p => (num * Nat.pow base p, den)
  | .negSucc p => (num, den * Nat.pow base (p + 1))

/-- The exponent of the largest power of two that is at most `num / den`. -/
def floorLog2 (num den : Nat) : Int :=
  let guess : Int := (num.log2 : Int) - den.log2
  let (n, d) := scaled 2 num den (-guess)
  if d ≤ n then guess else guess - 1

namespace Binary64

/-- The smallest exponent. -/
def minExponent : Int := -1074

/-- The largest exponent. -/
def maxExponent : Int := 971

/-- The value nearest to `num / den`, for `den` not zero. -/
def ofRatio (negative : Bool) (num den : Nat) : Binary64 :=
  if num = 0 then .finite negative 0 minExponent
  else
    let exponent := max (floorLog2 num den - 52) minExponent
    let (n, d) := scaled 2 num den (-exponent)
    let mantissa := roundDiv n d
    let (mantissa, exponent) := if mantissa = Nat.pow 2 53 then (Nat.pow 2 52, exponent + 1) else (mantissa, exponent)
    if maxExponent < exponent then .infinite negative else .finite negative mantissa exponent

/-- The value nearest to a decimal number. Numbers far outside the range are not computed with. -/
def ofScientific (x : Scientific) : Binary64 :=
  let magnitude : Int := (Nat.toDigits 10 x.coefficient).length + x.exponent
  if x.coefficient = 0 then .finite x.negative 0 minExponent
  else if 310 < magnitude then .infinite x.negative
  else if magnitude < -330 then .finite x.negative 0 minExponent
  else
    let (num, den) := scaled 10 x.coefficient 1 x.exponent
    ofRatio x.negative num den

/-- The value nearest to an integer. -/
def ofInt (i : Int) : Binary64 :=
  ofRatio (i < 0) i.natAbs 1

/-- The value nearest to the quotient of two integers, for a positive divisor. -/
def ofQuotient (num : Int) (den : Nat) : Binary64 :=
  ofRatio (num < 0) num.natAbs den

/-- Whether the value is a zero of either sign. -/
def isZero : Binary64 → Bool
  | .finite _ mantissa _ => mantissa = 0
  | _ => false

/-- The value without its fraction, for a finite value. -/
def truncate? : Binary64 → Option Int
  | .finite negative mantissa exponent =>
    let (num, den) := scaled 2 mantissa 1 exponent
    some (signed negative (num / den))
  | _ => none

/-! ### Arithmetic -/

/-- The value with the opposite sign. -/
def neg : Binary64 → Binary64
  | .finite negative mantissa exponent => .finite (!negative) mantissa exponent
  | .infinite negative => .infinite (!negative)
  | .notANumber => .notANumber

/-- The sign of a value: `true` if there is a minus sign. -/
def isNegative : Binary64 → Bool
  | .finite negative _ _ => negative
  | .infinite negative => negative
  | .notANumber => false

/-- A finite value as an integer multiple of the power of two with the given exponent, which is not above its own. -/
def unitsOf (exponent : Int) (negative : Bool) (mantissa : Nat) (own : Int) : Int :=
  signed negative (mantissa * Nat.pow 2 (own - exponent).toNat)

/-- The sum of two values, rounded once. -/
def add : Binary64 → Binary64 → Binary64
  | .finite n₁ m₁ e₁, .finite n₂ m₂ e₂ =>
    if m₁ = 0 && m₂ = 0 then .finite (n₁ && n₂) 0 minExponent
    else
      let exponent := min e₁ e₂
      let total := unitsOf exponent n₁ m₁ e₁ + unitsOf exponent n₂ m₂ e₂
      let (num, den) := scaled 2 total.natAbs 1 exponent
      ofRatio (total < 0) num den
  | .infinite n₁, .infinite n₂ => if n₁ = n₂ then .infinite n₁ else .notANumber
  | .infinite n, .finite .. | .finite .., .infinite n => .infinite n
  | _, _ => .notANumber

/-- The product of two values, rounded once. -/
def mul : Binary64 → Binary64 → Binary64
  | .finite n₁ m₁ e₁, .finite n₂ m₂ e₂ =>
    let (num, den) := scaled 2 (m₁ * m₂) 1 (e₁ + e₂)
    ofRatio (n₁ != n₂) num den
  | .infinite n, x | x, .infinite n =>
    if x = .notANumber || x.isZero then .notANumber else .infinite (n != x.isNegative)
  | _, _ => .notANumber

/-- The quotient of two values, rounded once. A zero as divisor is for the caller to refuse. -/
def div : Binary64 → Binary64 → Binary64
  | .finite n₁ m₁ e₁, .finite n₂ m₂ e₂ =>
    if m₂ = 0 then if m₁ = 0 then .notANumber else .infinite (n₁ != n₂)
    else
      let (num, den) := scaled 2 m₁ m₂ (e₁ - e₂)
      ofRatio (n₁ != n₂) num den
  | .infinite n₁, .finite n₂ _ _ => .infinite (n₁ != n₂)
  | .finite n₁ _ _, .infinite n₂ => .finite (n₁ != n₂) 0 minExponent
  | _, _ => .notANumber

/-- Compares two values; nothing compares with the result that is no number. -/
def compare? : Binary64 → Binary64 → Option Ordering
  | .finite n₁ m₁ e₁, .finite n₂ m₂ e₂ =>
    let exponent := min e₁ e₂
    some (compare (unitsOf exponent n₁ m₁ e₁) (unitsOf exponent n₂ m₂ e₂))
  | .infinite n₁, .infinite n₂ => some (compare n₂ n₁)
  | .infinite n, .finite .. => some (if n then .lt else .gt)
  | .finite .., .infinite n => some (if n then .gt else .lt)
  | _, _ => none

/-- The whole part of a finite value, cut off toward zero, and the value that is left. -/
def parts? (x : Binary64) : Option (Int × Binary64) := do
  let whole ← x.truncate?
  return (whole, x.add (ofInt (-whole)))

/-! ### Reading -/

/-- Drops low lines between digits; `none` if one stands elsewhere. -/
def dropSeparators? : List Char → Option (List Char)
  | [] => some []
  | c :: '_' :: d :: cs =>
    if Text.isDigit c && Text.isDigit d then (dropSeparators? (d :: cs)).map (c :: ·) else none
  | c :: cs => if c = '_' then none else (dropSeparators? cs).map (c :: ·)

/-- Reads a word for a value that is no finite number. -/
def special? (negative : Bool) (cs : List Char) : Option Binary64 :=
  let word := lowerAscii cs
  if word = "inf".toList || word = "infinity".toList then some (.infinite negative)
  else if word = "nan".toList then some .notANumber
  else none

/-- Reads a number in decimal notation, or one of the words `inf`, `infinity` and `nan` in any case. -/
def read? (text : String) : Option Binary64 := do
  let cs ← dropSeparators? (trimPadding text.toList)
  match Scientific.read? cs with
  | some x => return ofScientific x
  | none =>
    let (negative, body) := splitSign cs
    special? negative body

end Binary64

/-- The wording for a text that is no number. -/
def notANumberMessage (text : String) : String :=
  "could not convert string to float: " ++ Text.quoted text

end PointOfFocus.Number
