import PointOfFocus.Template.Examine
import PointOfFocus.Template.Filter

/-!
# Filling a template

A template is filled with the values of a scope and with further named values, of which the scope's own win. The
values are found by name, those of the innermost loop first. A value that is given to a name stays until the end of
the loop or the scoped block that it stands in.
-/

namespace PointOfFocus.Template

open PointOfFocus.Text (quoted)

/-- The values of names, innermost first. -/
abbrev Bindings := List (String × Datum)

/-- The names that every template sees. -/
def globalNames : Bindings :=
  [("range", .kind .range), ("dict", .kind .dict), ("cycler", .kind .cycler), ("joiner", .kind .joiner),
    ("namespace", .kind .holder), ("self", .template)]

/-- The value of a name. -/
def lookup (bindings : Bindings) (word : String) : Datum :=
  match Data.valueOf? bindings word with
  | some v => v
  | none => (Data.valueOf? globalNames word).getD (.undefined (quoted word ++ " is undefined"))

/-! ### Expressions -/

/-- The arguments with one more after them. -/
def Arguments.add (given : Arguments) (role : Role) (v : Datum) : Except RenderError Arguments :=
  match role with
  | .place => .ok { given with places := given.places ++ [v] }
  | .named word => .ok { given with names := given.names ++ [(word, v)] }
  | .items => v.items.map fun values => { given with places := given.places ++ values }
  | .entries =>
    match v with
    | .dict entries =>
      .ok { given with names := given.names ++ entries.filterMap fun (key, w) => key.asText?.map (·, w) }
    | .undefined message => .error (.undefined message)
    | _ => .error (.misuse (.notIterable v.typeName))

mutual

/-- The value of an expression, given the values of names. -/
def Expr.eval (names : String → Except RenderError Datum) : Expr → Except RenderError Datum
  | .constant value => .ok (.ofValue value)
  | .name word => names word
  | .member e part => do (← e.eval names).member part
  | .item e index => do
    let v ← e.eval names
    v.item (← index.eval names)
  | .slice e start stop step => do
    let v ← e.eval names
    let start ← start.eval names
    let stop ← stop.eval names
    v.slice start stop (← step.eval names)
  | .tuple es => do return .tuple (← evalItems names es)
  | .list es => do return .list (← evalItems names es)
  | .dict entries => do return .dict (← evalEntries names [] entries)
  | .call e given => do
    let v ← e.eval names
    v.call (← evalArguments names {} given)
  | .filter e f given => do
    let v ← e.eval names
    v.filtered f (← evalArguments names {} given)
  | .unknownFilter e word given _ => do
    let _ ← e.eval names
    let _ ← evalArguments names {} given
    throw (.unknownFilter word)
  | .test e t given => do
    let v ← e.eval names
    v.examined t (← evalArguments names {} given)
  | .unknownTest e word given _ => do
    let _ ← e.eval names
    let _ ← evalArguments names {} given
    throw (.unknownTest word)
  | .negation e => do return .bool !(← (← e.eval names).isTrue)
  | .both a b => do
    let v ← a.eval names
    if ← v.isTrue then b.eval names else return v
  | .either a b => do
    let v ← a.eval names
    if ← v.isTrue then return v else b.eval names
  | .choice test yes no => do
    if ← (← test.eval names).isTrue then yes.eval names else no.eval names
  | .option test yes line => do
    if ← (← test.eval names).isTrue then yes.eval names
    else
      return .absent ("the inline if-expression on line " ++ line.repr
        ++ " evaluated to false and no else section was defined.")
  | .sign negative e => do (← e.eval names).withSign negative
  | .binary op a b => do
    let v ← a.eval names
    v.operate op (← b.eval names)
  | .concat es => do return .text (String.join (← (← evalItems names es).mapM Datum.print))
  | .compare e links => do evalLinks names (← e.eval names) links

/-- The values of expressions. -/
def evalItems (names : String → Except RenderError Datum) : List Expr → Except RenderError (List Datum)
  | [] => .ok []
  | e :: es => do
    let v ← e.eval names
    return v :: (← evalItems names es)

/-- The entries of a mapping, after those found already. -/
def evalEntries (names : String → Except RenderError Datum) (found : List (Datum × Datum)) :
    List (Expr × Expr) → Except RenderError (List (Datum × Datum))
  | [] => .ok found
  | (key, value) :: rest => do
    let k ← key.eval names
    let v ← value.eval names
    k.requireDefined
    if k.isKey then evalEntries names (Datum.setEntry found k v) rest else throw (.misuse (.unhashable k.typeName))

/-- The arguments of a call, after those found already. -/
def evalArguments (names : String → Except RenderError Datum) (found : Arguments) :
    List (Role × Expr) → Except RenderError Arguments
  | [] => .ok found
  | (role, e) :: rest => do evalArguments names (← found.add role (← e.eval names)) rest

/-- Whether each value compares with the next as said, the first being given. -/
def evalLinks (names : String → Except RenderError Datum) (v : Datum) :
    List (Comparison × Expr) → Except RenderError Datum
  | [] => .ok (.bool true)
  | (c, e) :: rest => do
    let next ← e.eval names
    if ← v.compares c next then evalLinks names next rest else return .bool false

end

/-- The value of an expression under bindings. -/
def Expr.valueIn (e : Expr) (bindings : Bindings) : Except RenderError Datum :=
  e.eval fun word => .ok (lookup bindings word)

/-! ### Nodes -/

mutual

/-- The bindings after a target was given a value. -/
def Target.bind (v : Datum) (bindings : Bindings) : Target → Except RenderError Bindings
  | .name word => .ok ((word, v) :: bindings)
  | .part _ _ => .error .notSettable
  | .group targets => do
    match v with
    | .undefined message => throw (.undefined message)
    | _ =>
      match v.items with
      | .error _ => throw (.misuse (.notUnpackable v.typeName))
      | .ok values =>
        if values.length < targets.length then throw (.tooFewItems targets.length values.length)
        else if targets.length < values.length then throw (.tooManyItems targets.length)
        else bindAll values bindings targets

/-- The bindings after targets were given values in turn. -/
def bindAll (values : List Datum) (bindings : Bindings) : List Target → Except RenderError Bindings
  | [] => .ok bindings
  | t :: ts => do bindAll values.tail (← t.bind (values.headD .none) bindings) ts

end

/-- The items that meet the condition of a loop. -/
def selected (bindings : Bindings) (target : Target) (condition : Option Expr) (items : List Datum) :
    Except RenderError (List Datum) :=
  match condition with
  | none => .ok items
  | some e => items.filterM fun item => do (← e.valueIn (← target.bind item bindings)).isTrue

/-- The bindings of the round of a loop with the given number, from one. -/
def roundBindings (bindings : Bindings) (target : Target) (items : List Datum) (index : Nat) (item : Datum) :
    Except RenderError Bindings :=
  target.bind item (("loop", .progress index items) :: bindings)

/-- The bindings of a scoped block. The values see what stands before the block only. -/
def scopedBindings (outer bindings : Bindings) : List (Target × Expr) → Except RenderError Bindings
  | [] => .ok bindings
  | (target, e) :: rest => do
    let v ← e.valueIn outer
    scopedBindings outer (← target.bind v bindings) rest

mutual

/-- The text of a node, and the bindings after it. -/
def Node.render (bindings : Bindings) : Node → Except RenderError (String × Bindings)
  | .text content => .ok (content, bindings)
  | .print e => do return (← (← e.valueIn bindings).print, bindings)
  | .loop target source condition body otherwise _ => do
    let items ← selected bindings target condition (← (← source.valueIn bindings).items)
    if items.isEmpty then return ((← renderNodes bindings otherwise).1, bindings)
    else
      let rounds ← items.zipIdx.mapM fun (item, i) => do
        renderNodes (← roundBindings bindings target items (i + 1) item) body
      return (String.join (rounds.map (·.1)), bindings)
  | .branch test body otherwise => do
    if ← (← test.valueIn bindings).isTrue then renderNodes bindings body else renderNodes bindings otherwise
  | .assign target value _ => do return ("", ← target.bind (← value.valueIn bindings) bindings)
  | .capture target value body _ => do
    let (text, _) ← renderNodes bindings body
    let v ← value.valueIn (("", .text text) :: bindings)
    return ("", ← target.bind v bindings)
  | .scoped values body => do
    let (text, _) ← renderNodes (← scopedBindings bindings bindings values) body
    return (text, bindings)

/-- The text of nodes in a row, and the bindings after them. -/
def renderNodes (bindings : Bindings) : List Node → Except RenderError (String × Bindings)
  | [] => .ok ("", bindings)
  | node :: rest => do
    let (first, bindings) ← node.render bindings
    let (others, bindings) ← renderNodes bindings rest
    return (first ++ others, bindings)

end

/-! ### Templates -/

/-- The hop variables of a path, as a query writes them. -/
def hopNames (length : Int) : List String :=
  (countTo length).map fun i => "?POF" ++ Number.integerText i

/-- The names that a template sees: those of the scope before the further ones. -/
def scopeBindings (scope : Scope) (focusSubject : Option String) (context : List (String × Data.Value)) : Bindings :=
  [("tps", .list (scope.patterns.map .pattern)),
    ("pof", .text scope.projection),
    ("path_length", .int scope.pathLength),
    ("hops", .ofTexts (hopNames scope.pathLength)),
    ("keyword", .ofText? scope.keyword),
    ("prefix", .ofText? scope.iriStart),
    ("prefixes", .ofPrefixes scope.prefixes),
    ("pof_subject", .ofText? focusSubject),
    ("scope", .scope scope context)]
  ++ context.map fun entry => (entry.1, .ofValue entry.2)

end PointOfFocus.Template

namespace PointOfFocus

/-- A template that has been read. -/
structure Template where
  /-- Its nodes. -/
  nodes : List Template.Node
deriving Inhabited

namespace Template

/-- Fills a template with a scope and further named values, none of which can be called like the template itself. -/
def render (template : Template) (scope : Scope) (context : List (String × Data.Value)) :
    Except RenderError String := do
  let subject ← scope.focusSubject.mapError .term
  if context.any (·.1 = "self") then throw (.misuse (.repeatedArgument "Template.render" "self"))
  return (← renderNodes (scopeBindings scope subject context) template.nodes).1

end Template

end PointOfFocus
