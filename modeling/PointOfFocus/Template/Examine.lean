import PointOfFocus.Template.Call

/-!
# Tests

Whether a value passes a test. A test is a function whose first parameter is the value; most have no other.
-/

namespace PointOfFocus.Template

namespace Datum

/-- Whether the value has items. -/
def isIterable : Datum → Bool
  | .undefined _ => false
  | v => match v.items with
    | .ok _ => true
    | .error _ => false

/-- Whether the value has items at places and a length. -/
def isSequence : Datum → Bool
  | .list _ | .tuple _ | .dict _ | .range _ _ _ | .denoted (.bytes _) => true
  | v => v.asText?.isSome

/-- Whether the value can be called. -/
def isCallable : Datum → Bool
  | .method _ _ | .kind _ | .undefined _ | .absent _ | .progress _ _ => true
  | _ => false

/-- The remainder of the value by a number. -/
def remainderIs (v : Datum) (divisor : Datum) (expected : Int) : Except RenderError Bool := do
  (← operate .remainder v divisor).isEqual (.int expected)

/-- Whether the value passes a test, given the test's other arguments. -/
def passes (t : Test) (v : Datum) (given : List Datum) : Except RenderError Bool :=
  let other := given.headD .none
  match t with
  | .boolean => .ok (v matches .bool _)
  | .callable => .ok v.isCallable
  | .defined => .ok !(v matches .undefined _ | .absent _)
  | .undefined => .ok (v matches .undefined _ | .absent _)
  | .divisible => v.remainderIs other 0
  | .equal => v.isEqual other
  | .different => (v.isEqual other).map not
  | .even => v.remainderIs (.int 2) 0
  | .odd => v.remainderIs (.int 2) 1
  | .isFalse => .ok (v matches .bool false)
  | .isTrue => .ok (v matches .bool true)
  | .filter => do
    v.requireDefined
    return (v.asText?.map fun s => (Data.valueOf? filterNames s).isSome).getD false
  | .test => do
    v.requireDefined
    return (v.asText?.map fun s => (Data.valueOf? testNames s).isSome).getD false
  | .float => .ok (v matches .float _)
  | .integer => .ok (v matches .int _)
  | .number => .ok (v matches .bool _ | .int _ | .float _ | .denoted (.decimal _))
  | .greater => isOrdered ">" [.gt] v other
  | .atLeast => isOrdered ">=" [.gt, .eq] v other
  | .less => isOrdered "<" [.lt] v other
  | .atMost => isOrdered "<=" [.lt, .eq] v other
  | .inside => v.isInside other
  | .iterable => .ok v.isIterable
  | .sequence => .ok v.isSequence
  | .mapping => .ok (v matches .dict _)
  | .none => .ok (v matches .none)
  | .string => .ok v.asText?.isSome
  | .lower => do return Text.hasOnlyCase Text.isLowerLetter (← v.print)
  | .upper => do return Text.hasOnlyCase Text.isUpperLetter (← v.print)

end Datum

/-- The number of arguments that a test needs besides the value. -/
def Test.arity : Test → Nat
  | .divisible | .equal | .different | .greater | .atLeast | .less | .atMost | .inside => 1
  | _ => 0

/-- The name of a test's function in messages. -/
def Test.functionName : Test → String
  | .boolean => "test_boolean"
  | .callable => "callable"
  | .defined => "test_defined"
  | .divisible => "test_divisibleby"
  | .equal => "eq"
  | .even => "test_even"
  | .isFalse => "test_false"
  | .filter => "test_filter"
  | .float => "test_float"
  | .atLeast => "ge"
  | .greater => "gt"
  | .inside => "test_in"
  | .integer => "test_integer"
  | .iterable => "test_iterable"
  | .atMost => "le"
  | .less => "lt"
  | .lower => "test_lower"
  | .mapping => "test_mapping"
  | .different => "ne"
  | .none => "test_none"
  | .number => "test_number"
  | .odd => "test_odd"
  | .sequence => "test_sequence"
  | .string => "test_string"
  | .test => "test_test"
  | .isTrue => "test_true"
  | .undefined => "test_undefined"
  | .upper => "test_upper"

/-- Whether a value passes a test with arguments. -/
def Datum.examined (v : Datum) (t : Test) (given : Arguments) : Except RenderError Datum := do
  if given.places.length = t.arity then return .bool (← v.passes t given.places)
  else if given.places.length < t.arity then
    throw (.misuse (.missingArguments t.functionName ["seq"]))
  else
    throw (.misuse (.argumentCount t.functionName (t.arity + 1) (t.arity + 1) (given.places.length + 1)))

end PointOfFocus.Template
