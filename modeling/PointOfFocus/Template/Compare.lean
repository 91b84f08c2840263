import PointOfFocus.Template.Datum

/-!
# Comparing values

Numbers are compared by their size, whatever their types; texts and sequences item by item. Values of different kinds
are never equal, and most of them are not ordered. A value that is not defined cannot be compared.
-/

namespace PointOfFocus.Template

open PointOfFocus.Number
open PointOfFocus.Rdf

namespace Datum

/-- The number that a value is, as a fraction with a positive divisor; truth values are numbers. -/
def fraction? : Datum → Option (Int × Nat)
  | .bool b => some (if b then 1 else 0, 1)
  | .int i => some (i, 1)
  | .float (.finite negative mantissa exponent) =>
    let (num, den) := scaled 2 mantissa 1 exponent
    some (signed negative num, den)
  | .denoted (.decimal (.finite x)) =>
    let (num, den) := scaled 10 x.coefficient 1 x.exponent
    some (signed x.negative num, den)
  | _ => Option.none

/-- Whether two values that have no items are the same. -/
def isSame (a b : Datum) : Bool :=
  match a.fraction?, b.fraction? with
  | some (n₁, d₁), some (n₂, d₂) => n₁ * d₂ = n₂ * d₁
  | Option.none, Option.none =>
    match a with
    | .float .notANumber => false
    | _ => a.typeOf = b.typeOf && a.inner = b.inner
  | _, _ => false

mutual

/-- Whether two values are equal. -/
def equals : Datum → Datum → Bool
  | .list xs, .list ys => equalItems xs ys
  | .tuple xs, .tuple ys => equalItems xs ys
  | .dict xs, .dict ys => xs.length = ys.length && equalEntries xs ys
  | a, b => isSame a b

/-- Whether the items of two lists are equal. -/
def equalItems : List Datum → List Datum → Bool
  | [], [] => true
  | x :: xs, y :: ys => equals x y && equalItems xs ys
  | _, _ => false

/-- Whether every entry is among the given ones. -/
def equalEntries : List (Datum × Datum) → List (Datum × Datum) → Bool
  | [], _ => true
  | (key, v) :: rest, ys =>
    (ys.any fun (other, w) => equals key other && equals v w) && equalEntries rest ys

end

/-- Stops if a value is used that is not defined. -/
def requireDefined : Datum → Except RenderError Unit
  | .undefined message => .error (.undefined message)
  | _ => .ok ()

/-- Whether two values are equal, both of which must be defined unless one is a term. -/
def isEqual (a b : Datum) : Except RenderError Bool := do
  match a, b with
  | .term _, _ | _, .term _ => return a.equals b
  | _, _ =>
    a.requireDefined
    b.requireDefined
    return a.equals b

/-! ### Order -/

/-- How two values that have no items are ordered, if they are. -/
def sameOrder? (a b : Datum) : Option (Option Ordering) :=
  match a.fraction?, b.fraction? with
  | some (n₁, d₁), some (n₂, d₂) => some (some (compare (n₁ * d₂) (n₂ * d₁)))
  | x, y =>
    match a, b with
    | .text s, .text t => some (some (compare s.toList t.toList))
    | .float f, .float g => some (f.compare? g)
    | .float f, _ => if y.isSome then some (f.compare? (Binary64.ofInt 0)) else Option.none
    | _, .float g => if x.isSome then some ((Binary64.ofInt 0).compare? g) else Option.none
    | _, _ => Option.none

mutual

/-- How two values are ordered: nothing if they cannot be ordered, and no order at all if one is no number. The second
result is the pair of values that decides. -/
def order? : Datum → Datum → Except (Datum × Datum) (Option Ordering)
  | .list xs, .list ys => orderItems? xs ys
  | .tuple xs, .tuple ys => orderItems? xs ys
  | a, b => match sameOrder? a b with
    | some o => .ok o
    | Option.none => .error (a, b)

/-- How two lists are ordered: by their first items that differ. -/
def orderItems? : List Datum → List Datum → Except (Datum × Datum) (Option Ordering)
  | [], [] => .ok (some .eq)
  | [], _ => .ok (some .lt)
  | _, [] => .ok (some .gt)
  | x :: xs, y :: ys => if equals x y then orderItems? xs ys else order? x y

end

/-- Whether two values are ordered in one of the given ways; the symbol stands in messages. -/
def isOrdered (symbol : String) (ways : List Ordering) (a b : Datum) : Except RenderError Bool := do
  match a, b with
  | .undefined message, _ | .absent message, _ => .error (.undefined message)
  | _, .undefined message | _, .absent message => .error (.undefined message)
  | _, _ =>
    match a.order? b with
    | .ok (some o) => return ways.contains o
    | .ok Option.none => return false
    | .error (x, y) => .error (.misuse (.order symbol x.typeName y.typeName))

/-! ### Containment -/

/-- Whether the value is a key: lists and mappings are none. -/
def isKey : Datum → Bool
  | .list _ | .dict _ => false
  | _ => true

/-- Whether a list of characters occurs in another. -/
def occursIn (part : List Char) : List Char → Bool
  | [] => part.isEmpty
  | c :: cs => part.isPrefixOf (c :: cs) || occursIn part cs

/-- Whether the container has the value. -/
def isInside (v container : Datum) : Except RenderError Bool := do
  match container with
  | .undefined message => .error (.undefined message)
  | .absent _ => return false
  | .dict entries =>
    v.requireDefined
    if v.isKey then return entries.any fun entry => entry.1.equals v
    else .error (.misuse (.unhashable v.typeName))
  | _ =>
    match container.asText? with
    | some s =>
      match v.asText? with
      | some part => return occursIn part.toList s.toList
      | Option.none => .error (.misuse (.notSoughtInText v.typeName))
    | Option.none =>
      match container.items with
      | .ok values => values.anyM fun item => item.isEqual v
      | .error _ => .error (.misuse (.noContainer container.typeName))

end Datum

end PointOfFocus.Template
