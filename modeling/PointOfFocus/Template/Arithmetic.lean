import PointOfFocus.Number.Power
import PointOfFocus.Template.Compare
import PointOfFocus.Template.Tree

/-!
# Operators between values

Truth values count as the integers zero and one. Two integers give an integer, except that their quotient is a
floating-point number; with a floating-point number on one side all are. Texts and sequences can be put together and
repeated.
-/

namespace PointOfFocus.Template

open PointOfFocus.Number

/-- A number. -/
inductive Numeral where
  /-- An integer. -/
  | int (i : Int)
  /-- A floating-point number. -/
  | float (x : Binary64)

namespace Numeral

/-- The number as a value. -/
def toDatum : Numeral → Datum
  | .int i => .int i
  | .float x => .float x

/-- The number as a floating-point number. -/
def toFloat : Numeral → Except RenderError Binary64
  | .float x => .ok x
  | .int i => match Binary64.ofInt i with
    | .infinite _ => .error (.number .outOfRange)
    | x => .ok x

/-- The quotient of two floating-point numbers rounded down, and what is left. -/
def floorParts (x y : Binary64) : Binary64 × Binary64 :=
  match x.ratio?, y.ratio? with
  | some (n₁, d₁), some (n₂, d₂) =>
    let quotient := Int.fdiv (n₁ * d₂) (n₂ * d₁)
    let rest := n₁ * d₂ - quotient * (n₂ * d₁)
    (Binary64.ofInt quotient, Binary64.ofRatio (rest < 0 || (rest = 0 && y.isNegative)) rest.natAbs (d₁ * d₂))
  | some (n, _), none =>
    if y = .notANumber then (.notANumber, .notANumber)
    else if n = 0 || ((n < 0) = y.isNegative) then (Binary64.ofInt 0, x)
    else (Binary64.ofInt (-1), y)
  | _, _ => (.notANumber, .notANumber)

/-- The power of two floating-point numbers. -/
def floatPower (x y : Binary64) : Except RenderError Binary64 :=
  if x.isZero && y.isNegative && !y.isZero && y.ratio?.isSome then
    .error (.divisionByZero "0.0 cannot be raised to a negative power")
  else
    match x.power y, x.ratio?, y.ratio? with
    | .infinite _, some _, some _ => .error (.tooLarge "(34, 'Numerical result out of range')")
    | result, _, _ => .ok result

/-- The power of two integers. -/
def integerPower (base exponent : Int) : Except RenderError Numeral :=
  match exponent with
  | .ofNat n => .ok (.int (Int.pow base n))
  | .negSucc _ => do return .float (← floatPower (← toFloat (.int base)) (← toFloat (.int exponent)))

/-- Two integers with an operator between them. -/
def ofIntegers (op : Operator) (i j : Int) : Except RenderError Numeral :=
  match op with
  | .add => .ok (.int (i + j))
  | .subtract => .ok (.int (i - j))
  | .multiply => .ok (.int (i * j))
  | .divide =>
    if j = 0 then .error (.divisionByZero "division by zero")
    else
      match Binary64.ofRatio ((i < 0) ≠ (j < 0)) i.natAbs j.natAbs with
      | .infinite _ => .error (.tooLarge "integer division result too large for a float")
      | x => .ok (.float x)
  | .divideDown =>
    if j = 0 then .error (.divisionByZero "integer division or modulo by zero") else .ok (.int (Int.fdiv i j))
  | .remainder =>
    if j = 0 then .error (.divisionByZero "integer modulo by zero") else .ok (.int (Int.fmod i j))
  | .power => integerPower i j

/-- Two floating-point numbers with an operator between them. -/
def ofFloats (op : Operator) (x y : Binary64) : Except RenderError Binary64 :=
  match op with
  | .add => .ok (x.add y)
  | .subtract => .ok (x.add y.neg)
  | .multiply => .ok (x.mul y)
  | .divide => if y.isZero then .error (.divisionByZero "float division by zero") else .ok (x.div y)
  | .divideDown =>
    if y.isZero then .error (.divisionByZero "float floor division by zero") else .ok (floorParts x y).1
  | .remainder => if y.isZero then .error (.divisionByZero "float modulo") else .ok (floorParts x y).2
  | .power => floatPower x y

/-- Two numbers with an operator between them. -/
def operate (op : Operator) : Numeral → Numeral → Except RenderError Numeral
  | .int i, .int j => ofIntegers op i j
  | a, b => do return .float (← ofFloats op (← a.toFloat) (← b.toFloat))

end Numeral

/-- The symbol of an operator in messages. -/
def Operator.symbol : Operator → String
  | .add => "+"
  | .subtract => "-"
  | .multiply => "*"
  | .divide => "/"
  | .divideDown => "//"
  | .remainder => "%"
  | .power => "** or pow()"

namespace Datum

/-- The number that a value is, if it is one. -/
def numeral? : Datum → Option Numeral
  | .float x => some (.float x)
  | v => v.asInteger?.map .int

/-- A sequence repeated so many times. -/
def repeated {α : Type} (times : Int) (items : List α) : List α :=
  (List.replicate times.toNat items).flatten

/-- A text or a sequence repeated so many times, if the value is one. -/
def repeated? (times : Int) : Datum → Option Datum
  | .list items => some (.list (repeated times items))
  | .tuple items => some (.tuple (repeated times items))
  | v => v.asText?.map fun s => .text (String.ofList (repeated times s.toList))

/-- One value put after another of the same type, if they can be. -/
def appended? (a b : Datum) : Option (Except RenderError Datum) :=
  match a, b with
  | .list xs, .list ys => some (.ok (.list (xs ++ ys)))
  | .list _, _ => some (.error (.misuse (.concatenation "list" b.typeName)))
  | .tuple xs, .tuple ys => some (.ok (.tuple (xs ++ ys)))
  | .tuple _, _ => some (.error (.misuse (.concatenation "tuple" b.typeName)))
  | _, _ => a.asText?.map fun s => match b.asText? with
    | some t => .ok (.text (s ++ t))
    | Option.none => .error (.misuse (.concatenation "str" b.typeName))

/-- The product of a sequence and an integer, in either order, if it is one. -/
def product? (a b : Datum) : Option (Except RenderError Datum) :=
  let times (sequence other : Datum) : Option (Except RenderError Datum) :=
    match other.asInteger? with
    | some n => (repeated? n sequence).map .ok
    | Option.none => (repeated? 0 sequence).map fun _ => .error (.misuse (.repetition other.typeName))
  (times a b).orElse fun _ => times b a

/-- Two values with an operator between them. -/
def operate (op : Operator) (a b : Datum) : Except RenderError Datum :=
  match a, b with
  | .undefined message, _ | .absent message, _ => .error (.undefined message)
  | _, .undefined message | _, .absent message => .error (.undefined message)
  | _, _ =>
    match a.numeral?, b.numeral? with
    | some x, some y => (Numeral.operate op x y).map Numeral.toDatum
    | _, _ =>
      let result := match op with
        | .add => appended? a b
        | .multiply => product? a b
        | _ => Option.none
      result.getD (.error (.misuse (.operands op.symbol a.typeName b.typeName)))

/-- The value with a sign. -/
def withSign (negative : Bool) (v : Datum) : Except RenderError Datum :=
  match v with
  | .undefined message | .absent message => .error (.undefined message)
  | _ =>
    match v.numeral?, negative with
    | some (.int i), true => .ok (.int (-i))
    | some (.float x), true => .ok (.float x.neg)
    | some n, false => .ok n.toDatum
    | Option.none, _ => .error (.misuse (.operand (if negative then "-" else "+") v.typeName))

/-- Whether two values compare as said. -/
def compares (c : Comparison) (a b : Datum) : Except RenderError Bool :=
  match c with
  | .equal => a.isEqual b
  | .different => (a.isEqual b).map not
  | .less => isOrdered "<" [.lt] a b
  | .atMost => isOrdered "<=" [.lt, .eq] a b
  | .greater => isOrdered ">" [.gt] a b
  | .atLeast => isOrdered ">=" [.gt, .eq] a b
  | .inside => a.isInside b
  | .outside => (a.isInside b).map not

end Datum

end PointOfFocus.Template
