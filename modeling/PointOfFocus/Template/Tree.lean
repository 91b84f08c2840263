import PointOfFocus.Data.Value

/-!
# The structure of a template

A template is a list of nodes: text, printed expressions, loops, branches, and assignments of values to names. Filters
and tests are looked up by their names when the template is read; one that is not known stays in the tree by its name,
because it is a fault only where it can be reached.
-/

namespace PointOfFocus.Template

open PointOfFocus.Data (Value)

/-- What a value can be put through. -/
inductive Filter where
  /-- The absolute value of a number. -/
  | abs
  /-- A part of the value that is no entry of it. -/
  | attr
  /-- The text with its first letter in upper case and the others in lower case. -/
  | capitalize
  /-- Another value in place of one that is not defined. -/
  | default
  /-- The text with the marks of a markup language escaped. -/
  | escape
  /-- The first item. -/
  | first
  /-- A floating-point number. -/
  | float
  /-- An integer. -/
  | int
  /-- The entries of a mapping. -/
  | items
  /-- The items with a separator between them. -/
  | join
  /-- The last item. -/
  | last
  /-- The number of items. -/
  | length
  /-- The items as a list. -/
  | list
  /-- The text in lower case. -/
  | lower
  /-- The text with a part replaced by another. -/
  | replace
  /-- The items from last to first. -/
  | reverse
  /-- The value as it is. -/
  | safe
  /-- The items in ascending order. -/
  | sort
  /-- The text as it stands between the quotes of a query. -/
  | queryText
  /-- The text of the value. -/
  | string
  /-- The sum of the items. -/
  | sum
  /-- The text without the blanks around it. -/
  | trim
  /-- The text in upper case. -/
  | upper
deriving DecidableEq

/-- The filters with their names. -/
def filterNames : List (String × Filter) :=
  [("abs", .abs), ("attr", .attr), ("capitalize", .capitalize), ("count", .length), ("d", .default),
    ("default", .default), ("e", .escape), ("escape", .escape), ("first", .first), ("float", .float), ("int", .int),
    ("items", .items), ("join", .join), ("last", .last), ("length", .length), ("list", .list), ("lower", .lower),
    ("replace", .replace), ("reverse", .reverse), ("safe", .safe), ("sort", .sort), ("sparql_string", .queryText),
    ("string", .string), ("sum", .sum), ("trim", .trim), ("upper", .upper)]

/-- What a value can be tested for. -/
inductive Test where
  /-- It is a truth value. -/
  | boolean
  /-- It can be called. -/
  | callable
  /-- It is defined. -/
  | defined
  /-- A number divides it. -/
  | divisible
  /-- It equals a value. -/
  | equal
  /-- It is an even number. -/
  | even
  /-- It is the truth value false. -/
  | isFalse
  /-- A filter has it for its name. -/
  | filter
  /-- It is a floating-point number. -/
  | float
  /-- It is at least a value. -/
  | atLeast
  /-- It is greater than a value. -/
  | greater
  /-- A value contains it. -/
  | inside
  /-- It is an integer. -/
  | integer
  /-- It has items. -/
  | iterable
  /-- It is at most a value. -/
  | atMost
  /-- It is less than a value. -/
  | less
  /-- It is a text in lower case. -/
  | lower
  /-- It is a mapping. -/
  | mapping
  /-- It differs from a value. -/
  | different
  /-- It is absent. -/
  | none
  /-- It is a number. -/
  | number
  /-- It is an odd number. -/
  | odd
  /-- It has items at places. -/
  | sequence
  /-- It is a text. -/
  | string
  /-- A test has it for its name. -/
  | test
  /-- It is the truth value true. -/
  | isTrue
  /-- It is not defined. -/
  | undefined
  /-- It is a text in upper case. -/
  | upper
deriving DecidableEq

/-- The tests with their names. -/
def testNames : List (String × Test) :=
  [("boolean", .boolean), ("callable", .callable), ("defined", .defined), ("divisibleby", .divisible), ("eq", .equal),
    ("equalto", .equal), ("even", .even), ("false", .isFalse), ("filter", .filter), ("float", .float), ("ge", .atLeast),
    ("greaterthan", .greater), ("gt", .greater), ("in", .inside), ("integer", .integer), ("iterable", .iterable),
    ("le", .atMost), ("lessthan", .less), ("lower", .lower), ("lt", .less), ("mapping", .mapping), ("ne", .different),
    ("none", .none), ("number", .number), ("odd", .odd), ("sequence", .sequence), ("string", .string), ("test", .test),
    ("true", .isTrue), ("undefined", .undefined), ("upper", .upper)]

/-- The operators between two values. -/
inductive Operator where
  /-- The sum. -/
  | add
  /-- The difference. -/
  | subtract
  /-- The product. -/
  | multiply
  /-- The quotient. -/
  | divide
  /-- The quotient, rounded down. -/
  | divideDown
  /-- The remainder. -/
  | remainder
  /-- The power. -/
  | power
deriving DecidableEq

/-- The comparisons of two values. -/
inductive Comparison where
  /-- The values are equal. -/
  | equal
  /-- The values differ. -/
  | different
  /-- The first is less. -/
  | less
  /-- The first is not greater. -/
  | atMost
  /-- The first is greater. -/
  | greater
  /-- The first is not less. -/
  | atLeast
  /-- The second contains the first. -/
  | inside
  /-- The second does not contain the first. -/
  | outside
deriving DecidableEq

/-- How an argument is handed over. -/
inductive Role where
  /-- By its place. -/
  | place
  /-- By the name of a parameter. -/
  | named (word : String)
  /-- As items, each an argument by its place. -/
  | items
  /-- As entries, each an argument by its name. -/
  | entries

/-- An expression of a template. -/
inductive Expr where
  /-- A constant. -/
  | constant (value : Value)
  /-- The value of a name. -/
  | name (word : String)
  /-- The part of a value with a name. -/
  | member (e : Expr) (part : String)
  /-- The part of a value at an index. -/
  | item (e index : Expr)
  /-- The items of a value from a place up to another, in steps. -/
  | slice (e start stop step : Expr)
  /-- A group of values. -/
  | tuple (es : List Expr)
  /-- A list of values. -/
  | list (es : List Expr)
  /-- A mapping. -/
  | dict (entries : List (Expr × Expr))
  /-- The result of a call. -/
  | call (e : Expr) (arguments : List (Role × Expr))
  /-- A value put through a filter. -/
  | filter (e : Expr) (f : Filter) (arguments : List (Role × Expr))
  /-- A value put through a filter that does not exist, in the given line. -/
  | unknownFilter (e : Expr) (word : String) (arguments : List (Role × Expr)) (line : Nat)
  /-- Whether a value passes a test. -/
  | test (e : Expr) (t : Test) (arguments : List (Role × Expr))
  /-- Whether a value passes a test that does not exist, in the given line. -/
  | unknownTest (e : Expr) (word : String) (arguments : List (Role × Expr)) (line : Nat)
  /-- The opposite truth value. -/
  | negation (e : Expr)
  /-- The first value if it counts as false, else the second. -/
  | both (a b : Expr)
  /-- The first value if it counts as true, else the second. -/
  | either (a b : Expr)
  /-- One of two values, by a test. -/
  | choice (test yes no : Expr)
  /-- A value if a test holds, else nothing; it stands in the given line. -/
  | option (test yes : Expr) (line : Nat)
  /-- A number with a sign. -/
  | sign (negative : Bool) (e : Expr)
  /-- Two values with an operator between them. -/
  | binary (op : Operator) (a b : Expr)
  /-- The texts of values, one after the other. -/
  | concat (es : List Expr)
  /-- Whether each of some values compares with the next as said. -/
  | compare (e : Expr) (links : List (Comparison × Expr))

/-- The name of an expression's kind in messages. -/
def Expr.kind : Expr → String
  | .constant _ => "const"
  | .name _ => "name"
  | .member _ _ => "getattr"
  | .item _ _ | .slice _ _ _ _ => "getitem"
  | .tuple _ => "tuple"
  | .list _ => "list"
  | .dict _ => "dict"
  | .call _ _ => "call"
  | .filter _ _ _ | .unknownFilter _ _ _ _ => "filter"
  | .test _ _ _ | .unknownTest _ _ _ _ => "test"
  | .negation _ => "not"
  | .both _ _ => "and"
  | .either _ _ => "or"
  | .choice _ _ _ | .option _ _ _ => "condexpr"
  | .sign negative _ => if negative then "neg" else "pos"
  | .binary .add _ _ => "add"
  | .binary .subtract _ _ => "sub"
  | .binary .multiply _ _ => "mul"
  | .binary .divide _ _ => "div"
  | .binary .divideDown _ _ => "floordiv"
  | .binary .remainder _ _ => "mod"
  | .binary .power _ _ => "pow"
  | .concat _ => "concat"
  | .compare _ _ => "compare"

/-- What can be given a value. -/
inductive Target where
  /-- A name. -/
  | name (word : String)
  /-- A part of the value of a name. -/
  | part (word part : String)
  /-- A group, each member of which is given an item of the value. -/
  | group (targets : List Target)

/-- A part of a template. -/
inductive Node where
  /-- Text. -/
  | text (content : String)
  /-- A value to print. -/
  | print (e : Expr)
  /-- Nodes for each item of a value that meets the condition, or others if there is none; the loop starts in the given
  line. -/
  | loop (target : Target) (source : Expr) (condition : Option Expr) (body otherwise : List Node) (line : Nat)
  /-- Nodes if a test holds, or others if not. -/
  | branch (test : Expr) (body otherwise : List Node)
  /-- A value for a target, in the given line. -/
  | assign (target : Target) (value : Expr) (line : Nat)
  /-- The text of nodes for a target, in the given line; the value has the text under the empty name. -/
  | capture (target : Target) (value : Expr) (body : List Node) (line : Nat)
  /-- Nodes in which targets have values. -/
  | scoped (values : List (Target × Expr)) (body : List Node)
deriving Inhabited

end PointOfFocus.Template
