import PointOfFocus.Template.Stream
import PointOfFocus.Template.Tree

/-!
# Reading expressions

An expression is read from its tokens with a bound on its depth and on the length of every list; the number of tokens
is always enough. The operators bind in this order, the tightest first: members and calls, signs, filters and tests,
powers, products, texts put together, sums, comparisons, negation, conjunction, disjunction, choice.
-/

namespace PointOfFocus.Template

open PointOfFocus.Data (Value)

/-! ### Lists of expressions -/

/-- The items of a group, which commas divide, after those read already; `atEnd` tells where the group ends. The second
result tells whether there was a comma. -/
def groupItems (item : Reader Expr) (atEnd : Reader Bool) : Nat → List Expr → Reader (List Expr × Bool)
  | 0, es => return (es, true)
  | bound + 1, es => do
    if !es.isEmpty then expectOperator ","
    if ← atEnd then return (es, !es.isEmpty)
    else
      let e ← item
      if ← atOperator "," then groupItems item atEnd bound (es ++ [e])
      else return (es ++ [e], !es.isEmpty)

/-- Whether the token at hand ends a group. -/
def atGroupEnd : Reader Bool := do
  match (← current).mark with
  | .printEnd | .blockEnd | .operator ")" => return true
  | _ => return false

/-- One expression, or a group of them; without parentheses around it, a group is not empty. -/
def groupOf (item : Reader Expr) (atEnd : Reader Bool) (inParentheses : Bool) (bound : Nat) : Reader Expr := do
  let (es, isGroup) ← groupItems item (do return (← atGroupEnd) || (← atEnd)) bound []
  match es, isGroup with
  | e :: _, false => return e
  | [], false =>
    let t ← current
    if inParentheses then return .tuple [] else failAt t.line (.missingExpression t.mark.describe)
  | es, true => return .tuple es

/-- The items of a list up to its bracket, after those read already. -/
def listItems (item : Reader Expr) : Nat → List Expr → Reader (List Expr)
  | 0, es => return es
  | bound + 1, es => do
    if ← atOperator "]" then return es
    if !es.isEmpty then expectOperator ","
    if ← atOperator "]" then return es
    listItems item bound (es ++ [← item])

/-- The entries of a mapping up to its brace, after those read already. -/
def dictEntries (item : Reader Expr) : Nat → List (Expr × Expr) → Reader (List (Expr × Expr))
  | 0, entries => return entries
  | bound + 1, entries => do
    if ← atOperator "\x7d" then return entries
    if !entries.isEmpty then expectOperator ","
    if ← atOperator "\x7d" then return entries
    let key ← item
    expectOperator ":"
    let value ← item
    dictEntries item bound (entries ++ [(key, value)])

/-- Whether an argument of the role may follow the given ones. -/
def Role.mayFollow (given : List (Role × Expr)) (role : Role) : Bool :=
  given.all fun (before, _) =>
    match before, role with
    | .entries, _ => false
    | .items, .place | .items, .items => false
    | .named _, .place => false
    | _, _ => true

/-- The arguments of a call up to its parenthesis, after those read already; the call starts in the given line. -/
def argumentItems (item : Reader Expr) (line : Nat) : Nat → List (Role × Expr) → Reader (List (Role × Expr))
  | 0, given => return given
  | bound + 1, given => do
    if ← atOperator ")" then return given
    if !given.isEmpty then expectOperator ","
    if ← atOperator ")" then return given
    let t ← current
    let isNamed ← match t.mark with
      | .name _ => do pure ((← following).mark.isOperator "=")
      | _ => pure false
    let role := match t.mark with
      | .operator "*" => .items
      | .operator "**" => .entries
      | .name s => if isNamed then .named s else .place
      | _ => .place
    if !role.mayFollow given then failAt line .badArguments
    match role with
    | .items | .entries => let _ ← advance
    | .named _ =>
      let _ ← advance
      let _ ← advance
    | .place => pure ()
    argumentItems item line bound (given ++ [(role, ← item)])

/-- The arguments of a call, in parentheses. -/
def arguments (item : Reader Expr) (bound : Nat) : Reader (List (Role × Expr)) := do
  let line := (← current).line
  expectOperator "("
  let given ← argumentItems item line bound []
  expectOperator ")"
  return given

/-- The arguments of a call if there are any. -/
def optionalArguments (item : Reader Expr) (bound : Nat) : Reader (List (Role × Expr)) := do
  if ← atOperator "(" then arguments item bound else return []

/-! ### Values -/

/-- Further quoted texts after one; they are put together. -/
def moreText : Nat → Reader String
  | 0 => return ""
  | bound + 1 => do
    match (← current).mark with
    | .string s =>
      let _ ← advance
      return s ++ (← moreText bound)
    | _ => return ""

/-- The value of a name that stands for a constant. -/
def constantName? (word : String) : Option Value :=
  if word = "true" || word = "True" then some (.bool true)
  else if word = "false" || word = "False" then some (.bool false)
  else if word = "none" || word = "None" then some .null
  else none

/-- A name, a constant, or expressions in brackets, given how to read the latter. -/
def primary (inner : Reader Expr) (bound : Nat) : Reader Expr := do
  let t ← current
  match t.mark with
  | .name s =>
    let _ ← advance
    return (constantName? s).elim (.name s) .constant
  | .string s =>
    let _ ← advance
    return .constant (.text (s ++ (← moreText bound)))
  | .integer n =>
    let _ ← advance
    return .constant (.int n)
  | .float x =>
    let _ ← advance
    return .constant (.float x)
  | .operator "(" =>
    let _ ← advance
    let e ← groupOf inner (return false) true bound
    expectOperator ")"
    return e
  | .operator "[" =>
    let _ ← advance
    let es ← listItems inner bound []
    expectOperator "]"
    return .list es
  | .operator "\x7b" =>
    let _ ← advance
    let entries ← dictEntries inner bound []
    expectOperator "\x7d"
    return .dict entries
  | mark => failAt t.line (.unexpected mark.describe)

/-- What stands in the brackets after a value: an index, or the ends and the step of a part. -/
inductive Subscript where
  /-- An index. -/
  | index (e : Expr)
  /-- The ends and the step of a part; nothing stands for what is left out. -/
  | slice (start stop step : Expr)

/-- What stands for an end or a step that is left out. -/
def leftOut : Expr := .constant .null

/-- An end or a step of a part of a sequence, which may be left out. -/
def sliceEnd (inner : Reader Expr) : Reader Expr := do
  match (← current).mark with
  | .operator ":" | .operator "]" | .operator "," => return leftOut
  | _ => inner

/-- What follows the first colon in brackets. -/
def sliceRest (inner : Reader Expr) (start : Expr) : Reader Subscript := do
  let stop ← sliceEnd inner
  let step ← if ← skipOperator ":" then sliceEnd inner else pure leftOut
  return .slice start stop step

/-- An index or the ends of a part. -/
def subscript (inner : Reader Expr) : Reader Subscript := do
  if ← skipOperator ":" then sliceRest inner leftOut
  else
    let e ← inner
    if ← skipOperator ":" then sliceRest inner e else return .index e

/-- The subscripts up to the bracket, after those read already. -/
def subscripts (inner : Reader Expr) : Nat → List Subscript → Reader (List Subscript)
  | 0, found => return found
  | bound + 1, found => do
    if ← atOperator "]" then return found
    if !found.isEmpty then expectOperator ","
    subscripts inner bound (found ++ [← subscript inner])

/-- The part of a value that subscripts name; several of them are one index. -/
def Expr.subscripted (e : Expr) : List Subscript → Expr
  | [.index index] => .item e index
  | [.slice start stop step] => .slice e start stop step
  | found => .item e (.tuple (found.map fun
      | .index index => index
      | .slice _ _ _ => leftOut))

/-- The members, parts and calls of a value. -/
def members (inner : Reader Expr) : Nat → Expr → Reader Expr
  | 0, e => return e
  | bound + 1, e => do
    if ← skipOperator "." then
      let t ← advance
      match t.mark with
      | .name s => members inner bound (.member e s)
      | .integer n => members inner bound (.item e (.constant (.int n)))
      | _ => failAt t.line .missingMember
    else if ← skipOperator "[" then
      let found ← subscripts inner bound []
      expectOperator "]"
      members inner bound (e.subscripted found)
    else if ← atOperator "(" then members inner bound (.call e (← arguments inner bound))
    else return e

/-- Further parts of a name that points divide. -/
def dottedName : Nat → String → Reader String
  | 0, word => return word
  | bound + 1, word => do
    if ← skipOperator "." then dottedName bound (word ++ "." ++ (← anyName)) else return word

/-- The value put through the filter of the name. -/
def Expr.filtered (e : Expr) (word : String) (given : List (Role × Expr)) (line : Nat) : Expr :=
  match Data.valueOf? filterNames word with
  | some f => .filter e f given
  | none => .unknownFilter e word given line

/-- The value put to the test of the name. -/
def Expr.tested (e : Expr) (word : String) (given : List (Role × Expr)) (line : Nat) : Expr :=
  match Data.valueOf? testNames word with
  | some t => .test e t given
  | none => .unknownTest e word given line

/-- One filter, after its bar. -/
def oneFilter (inner : Reader Expr) (bound : Nat) (e : Expr) : Reader Expr := do
  let line := (← current).line
  let word ← dottedName bound (← anyName)
  return e.filtered word (← optionalArguments inner bound) line

/-- Whether the token at hand starts an argument of a test that has no parentheses. -/
def atTestArgument : Reader Bool := do
  match (← current).mark with
  | .name s => return s ≠ "else" && s ≠ "or" && s ≠ "and"
  | .string _ | .integer _ | .float _ => return true
  | .operator s => return s = "[" || s = "\x7b"
  | _ => return false

/-- One test, after its word; the test starts in the given line. -/
def oneTest (inner : Reader Expr) (bound line : Nat) (e : Expr) : Reader Expr := do
  let isNegated ← skipName "not"
  let word ← dottedName bound (← anyName)
  let given ←
    if ← atOperator "(" then arguments inner bound
    else if ← atTestArgument then do
      let t ← current
      if t.mark.isName "is" then failAt t.line .chainedTests
      let argument ← members inner bound (← primary inner bound)
      pure [(.place, argument)]
    else pure []
  let tested := e.tested word given line
  return if isNegated then .negation tested else tested

/-- The filters, tests and calls after a value. -/
def filters (inner : Reader Expr) : Nat → Expr → Reader Expr
  | 0, e => return e
  | bound + 1, e => do
    let t ← current
    if ← skipOperator "|" then filters inner bound (← oneFilter inner bound e)
    else if ← skipName "is" then filters inner bound (← oneTest inner bound t.line e)
    else if ← atOperator "(" then filters inner bound (.call e (← arguments inner bound))
    else return e

/-- A value with its members and signs. -/
def signedValue (inner : Reader Expr) : Nat → Reader Expr
  | 0 => do failAt (← current).line .tooDeep
  | bound + 1 => do
    let e ←
      if ← skipOperator "-" then do pure (.sign true (← signedValue inner bound))
      else if ← skipOperator "+" then do pure (.sign false (← signedValue inner bound))
      else primary inner bound
    members inner bound e

/-- A value with its signs, members, filters and tests. -/
def operand (inner : Reader Expr) (bound : Nat) : Reader Expr := do
  filters inner bound (← signedValue inner bound)

/-! ### Operators -/

/-- Further operands after one, with operators between them that bind to the left. -/
def operated (ops : List (String × Operator)) (item : Reader Expr) : Nat → Expr → Reader Expr
  | 0, e => return e
  | bound + 1, e => do
    match (← current).mark with
    | .operator s =>
      match Data.valueOf? ops s with
      | some op =>
        let _ ← advance
        operated ops item bound (.binary op e (← item))
      | none => return e
    | _ => return e

/-- Powers. -/
def powers (inner : Reader Expr) (bound : Nat) : Reader Expr := do
  operated [("**", .power)] (operand inner bound) bound (← operand inner bound)

/-- Products. -/
def products (inner : Reader Expr) (bound : Nat) : Reader Expr := do
  operated [("*", .multiply), ("/", .divide), ("//", .divideDown), ("%", .remainder)] (powers inner bound) bound
    (← powers inner bound)

/-- Further values after some, which are put together as texts. -/
def concatenated (item : Reader Expr) : Nat → List Expr → Reader (List Expr)
  | 0, es => return es
  | bound + 1, es => do
    if ← skipOperator "~" then concatenated item bound (es ++ [← item]) else return es

/-- Values put together as texts. -/
def texts (inner : Reader Expr) (bound : Nat) : Reader Expr := do
  match ← concatenated (products inner bound) bound [← products inner bound] with
  | [e] => return e
  | es => return .concat es

/-- Sums. -/
def sums (inner : Reader Expr) (bound : Nat) : Reader Expr := do
  operated [("+", .add), ("-", .subtract)] (texts inner bound) bound (← texts inner bound)

/-- The comparisons that are written with symbols. -/
def comparisonSymbols : List (String × Comparison) :=
  [("==", .equal), ("!=", .different), ("<", .less), ("<=", .atMost), (">", .greater), (">=", .atLeast)]

/-- Takes the comparison at hand if there is one. -/
def comparison? : Reader (Option Comparison) := do
  match (← current).mark with
  | .operator s =>
    match Data.valueOf? comparisonSymbols s with
    | some c =>
      let _ ← advance
      return some c
    | none => return none
  | .name "in" =>
    let _ ← advance
    return some .inside
  | .name "not" =>
    if (← following).mark.isName "in" then
      let _ ← advance
      let _ ← advance
      return some .outside
    else return none
  | _ => return none

/-- Further comparisons after some. -/
def links (item : Reader Expr) : Nat → List (Comparison × Expr) → Reader (List (Comparison × Expr))
  | 0, found => return found
  | bound + 1, found => do
    match ← comparison? with
    | some c => links item bound (found ++ [(c, ← item)])
    | none => return found

/-- Comparisons. -/
def comparisons (inner : Reader Expr) (bound : Nat) : Reader Expr := do
  let e ← sums inner bound
  let found ← links (sums inner bound) bound []
  return if found.isEmpty then e else .compare e found

/-- Comparisons and their negations. -/
def negations (inner : Reader Expr) : Nat → Reader Expr
  | 0 => do failAt (← current).line .tooDeep
  | bound + 1 => do
    if ← skipName "not" then return .negation (← negations inner bound) else comparisons inner bound

/-- Further operands after one, joined by a word. -/
def joined (word : String) (join : Expr → Expr → Expr) (item : Reader Expr) : Nat → Expr → Reader Expr
  | 0, e => return e
  | bound + 1, e => do
    if ← skipName word then joined word join item bound (join e (← item)) else return e

/-- Values joined by `and`. -/
def conjunction (inner : Reader Expr) (bound : Nat) : Reader Expr := do
  joined "and" .both (negations inner bound) bound (← negations inner bound)

/-- Values joined by `or`. -/
def disjunction (inner : Reader Expr) (bound : Nat) : Reader Expr := do
  joined "or" .either (conjunction inner bound) bound (← conjunction inner bound)

/-- The tests by which a value is chosen, which starts in the given line. -/
def choices (inner : Reader Expr) (bound : Nat) : Nat → Nat → Expr → Reader Expr
  | 0, _, e => return e
  | steps + 1, line, e => do
    if ← skipName "if" then
      let test ← disjunction inner bound
      let e ← if ← skipName "else" then do pure (.choice test e (← inner)) else pure (.option test e line)
      choices inner bound steps (← current).line e
    else return e

/-- An expression of at most the given depth. -/
def expression : Nat → Reader Expr
  | 0 => do failAt (← current).line .tooDeep
  | bound + 1 => do
    let line := (← current).line
    let e ← disjunction (expression bound) bound
    choices (expression bound) bound bound line e

/-- An expression or a group of them. -/
def printed (bound : Nat) : Reader Expr :=
  groupOf (expression bound) (return false) false bound

/-- The expression or group of them of a statement, which are no choices; `atEnd` tells where else it ends. -/
def tested (atEnd : Reader Bool) (bound : Nat) : Reader Expr :=
  groupOf (disjunction (expression bound) bound) atEnd false bound

end PointOfFocus.Template
