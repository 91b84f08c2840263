import PointOfFocus.Number.Binary64

/-!
# Powers of floating-point numbers

A power with a small integer exponent is an exact fraction, which is rounded once. Any other power goes through the
logarithm of its base, in fixed-point numbers with so many bits after the point that the result, too, is the value
nearest to the exact power unless that lies as good as in the middle of two values.
-/

namespace PointOfFocus.Number

/-! ### Logarithms in fixed point -/

/-- The number one in fixed point. -/
def fixedOne : Nat := Nat.pow 2 320

/-- So many terms of the series `z / i + z³ / (i + 2) + …`, given its next term without the divisor and `z²`. -/
def oddSeries (square : Nat) : (terms index term : Nat) → Nat
  | 0, _, _ => 0
  | terms + 1, index, term => term / index + oddSeries square terms (index + 2) (term * square / fixedOne)

/-- The natural logarithm of `num / den`, which lies between one and two. -/
def smallLog (num den : Nat) : Nat :=
  let z := (num - den) * fixedOne / (num + den)
  2 * oddSeries (z * z / fixedOne) 104 1 z

/-- The natural logarithm of two. -/
def logTwo : Nat := smallLog 2 1

/-- The natural logarithm of `num / den`. -/
def naturalLog (num den : Nat) : Int :=
  let power := floorLog2 num den
  let (n, d) := scaled 2 num den (-power)
  power * logTwo + smallLog n d

/-- So many terms of the exponential series, given the next one. -/
def exponentialSeries (x : Nat) : (terms index term : Nat) → Nat
  | 0, _, _ => 0
  | terms + 1, index, term => term + exponentialSeries x terms (index + 1) (term * x / (fixedOne * index))

/-- The value nearest to the exponential of a fixed-point number. -/
def exponential (x : Int) : Binary64 :=
  let power := Int.fdiv x logTwo
  if 1100 < power then .infinite false
  else if power < -1200 then Binary64.ofRatio false 0 1
  else
    let (num, den) := scaled 2 (exponentialSeries (x - power * logTwo).toNat 80 1 fixedOne) fixedOne power
    Binary64.ofRatio false num den

/-! ### Powers -/

namespace Binary64

/-- A finite value as a fraction with a positive divisor. -/
def ratio? : Binary64 → Option (Int × Nat)
  | .finite negative mantissa exponent =>
    let (num, den) := scaled 2 mantissa 1 exponent
    some (signed negative num, den)
  | _ => none

/-- The value as an integer, if it is one. -/
def integer? (x : Binary64) : Option Int := do
  let (num, den) ← x.ratio?
  if num % den = 0 then some (num / den) else none

/-- The largest exponent for which a power is computed exactly. -/
def maxExactPower : Nat := 1024

/-- The power of the positive number `num / den`. -/
def positivePower (num den : Nat) (y : Binary64) : Binary64 :=
  let throughLog := fun (top : Int) (bottom : Nat) => exponential (Int.fdiv (naturalLog num den * top) bottom)
  match y.integer?, y.ratio? with
  | some (.ofNat n), some (top, bottom) =>
    if n ≤ maxExactPower then ofRatio false (Nat.pow num n) (Nat.pow den n) else throughLog top bottom
  | some (.negSucc n), some (top, bottom) =>
    if n < maxExactPower then ofRatio false (Nat.pow den (n + 1)) (Nat.pow num (n + 1)) else throughLog top bottom
  | none, some (top, bottom) => throughLog top bottom
  | _, none => .notANumber

/-- The power of two values. A negative power of zero is for the caller to refuse; a negative number has a power only
if the exponent is an integer. -/
def power (x y : Binary64) : Binary64 :=
  let one := ofInt 1
  let isOdd : Bool := y.integer?.any (· % 2 = 1)
  if y.isZero then one
  else
    match x, y with
    | .notANumber, _ => .notANumber
    | x, .notANumber => if x.compare? one = some .eq then one else .notANumber
    | x, .infinite negative =>
      match (if x.isNegative then x.neg else x).compare? one with
      | some .eq => one
      | order => if (order == some .gt) == negative then .finite false 0 minExponent else .infinite false
    | .infinite negative, y =>
      if y.isNegative then .finite (negative && isOdd) 0 minExponent else .infinite (negative && isOdd)
    | .finite negative mantissa exponent, y =>
      if mantissa = 0 then .finite (negative && isOdd) 0 minExponent
      else if negative && y.integer? = none then .notANumber
      else
        let (num, den) := scaled 2 mantissa 1 exponent
        let result := positivePower num den y
        if negative && isOdd then result.neg else result

end Binary64

end PointOfFocus.Number
