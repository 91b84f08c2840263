import PointOfFocus.Template.Render
import PointOfFocus.Template.Statement

/-!
# Checking a template

A template that was read is checked before it is used: every filter and test has to exist, except inside a branch or
a choice, where one that does not is a fault only if it is reached, and in an expression whose value is known already;
and the name of a loop's progress must not be given a value inside a loop.
-/

namespace PointOfFocus.Template

/-! ### Filters and tests -/

mutual

/-- Whether a value can be kept in place of the expression that has it. -/
def Datum.isKept : Datum → Bool
  | .none | .bool _ | .int _ | .float _ | .text _ | .range _ _ _ => true
  | .list items | .tuple items => allKept items
  | .dict entries => entriesKept entries
  | _ => false

/-- Whether all values can be kept. -/
def allKept : List Datum → Bool
  | [] => true
  | v :: vs => v.isKept && allKept vs

/-- Whether all entries can be kept. -/
def entriesKept : List (Datum × Datum) → Bool
  | [] => true
  | (key, v) :: rest => key.isKept && v.isKept && entriesKept rest

end

/-- Whether the value of the expression is known without the values of names. -/
def Expr.isSettled (e : Expr) : Bool :=
  match e.eval fun word => .error (.undefined word) with
  | .ok v => v.isKept
  | .error _ => false

mutual

/-- The first filter or test of an expression that does not exist and is not inside a choice. -/
def Expr.fault? (e : Expr) : Option Fault :=
  if e.isSettled then none
  else match e with
    | .unknownFilter _ word _ line => some ⟨line, .unknownFilter word⟩
    | .unknownTest _ word _ line => some ⟨line, .unknownTest word⟩
    | .filter e _ given | .test e _ given | .call e given => e.fault? <|> argumentsFault? given
    | .member e _ => e.fault?
    | .item e index => e.fault? <|> index.fault?
    | .slice e start stop step => e.fault? <|> start.fault? <|> stop.fault? <|> step.fault?
    | .tuple es | .list es | .concat es => itemsFault? es
    | .dict entries => entriesFault? entries
    | .negation e | .sign _ e => e.fault?
    | .both a b | .either a b | .binary _ a b => a.fault? <|> b.fault?
    | .compare e links => e.fault? <|> linksFault? links
    | .constant _ | .name _ | .choice _ _ _ | .option _ _ _ => none

/-- The first fault of expressions. -/
def itemsFault? : List Expr → Option Fault
  | [] => none
  | e :: es => e.fault? <|> itemsFault? es

/-- The first fault of entries. -/
def entriesFault? : List (Expr × Expr) → Option Fault
  | [] => none
  | (key, value) :: rest => key.fault? <|> value.fault? <|> entriesFault? rest

/-- The first fault of arguments. -/
def argumentsFault? : List (Role × Expr) → Option Fault
  | [] => none
  | (_, e) :: rest => e.fault? <|> argumentsFault? rest

/-- The first fault of compared values. -/
def linksFault? : List (Comparison × Expr) → Option Fault
  | [] => none
  | (_, e) :: rest => e.fault? <|> linksFault? rest

end

/-! ### The name of a loop's progress -/

mutual

/-- Whether the target gives a value to the name of a loop's progress. -/
def Target.setsLoop : Target → Bool
  | .name word => word = "loop"
  | .part _ _ => false
  | .group targets => anySetsLoop targets

/-- Whether a target among some gives a value to the name of a loop's progress. -/
def anySetsLoop : List Target → Bool
  | [] => false
  | t :: ts => t.setsLoop || anySetsLoop ts

end

mutual

/-- The line where a node gives a value to the name of a loop's progress. -/
def Node.loopSetAt? : Node → Option Nat
  | .text _ | .print _ => none
  | .loop target _ _ body otherwise line =>
    if target.setsLoop then some line else loopSetIn? body <|> loopSetIn? otherwise
  | .branch _ body otherwise => loopSetIn? body <|> loopSetIn? otherwise
  | .assign target _ line => if target.setsLoop then some line else none
  | .capture target _ body line => if target.setsLoop then some line else loopSetIn? body
  | .scoped _ body => loopSetIn? body

/-- The first line where nodes give a value to the name of a loop's progress. -/
def loopSetIn? : List Node → Option Nat
  | [] => none
  | node :: rest => node.loopSetAt? <|> loopSetIn? rest

end

/-! ### Nodes -/

/-- The first fault of the values of a scoped block. -/
def scopedFault? : List (Target × Expr) → Option Fault
  | [] => none
  | (_, e) :: rest => e.fault? <|> scopedFault? rest

mutual

/-- The first fault of a node; `lenient` tells whether the node is right inside a branch. -/
def Node.fault? (lenient : Bool) : Node → Option Fault
  | .text _ => none
  | .print e => if lenient then none else e.fault?
  | .loop target source condition body otherwise line =>
    (condition.bind Expr.fault?)
      <|> ((Node.loopSetAt? (.loop target source condition body otherwise line)).map (⟨·, .loopAssigned⟩))
      <|> (if lenient then none else source.fault?)
      <|> faultIn? false body <|> faultIn? false otherwise
  | .branch _ body otherwise => faultIn? true body <|> faultIn? true otherwise
  | .assign _ value _ => if lenient then none else value.fault?
  | .capture _ value body _ => faultIn? false body <|> value.fault?
  | .scoped values body => (if lenient then none else scopedFault? values) <|> faultIn? false body

/-- The first fault of nodes. -/
def faultIn? (lenient : Bool) : List Node → Option Fault
  | [] => none
  | node :: rest => node.fault? lenient <|> faultIn? lenient rest

end

/-- Reads a template. -/
def compile (text : String) : Except Fault Template := do
  let nodes ← readTree text
  match faultIn? false nodes with
  | some fault => throw fault
  | none => return ⟨nodes⟩

end PointOfFocus.Template
