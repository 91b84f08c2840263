import PointOfFocus.Query.Error
import PointOfFocus.Text.UpperCase

/-!
# Walking through the tokens

The parser walks through the tokens of a query with a scope that it fills on the way. A step either gives a
result or stops with a fault; in both cases what was collected so far remains.
-/

namespace PointOfFocus.Query

open PointOfFocus.Rdf
open PointOfFocus.Text

/-- The point of focus as it was read. -/
structure Marker where
  /-- Its token. -/
  token : Token
  /-- The place of the term that it stands for. -/
  role : Role
deriving DecidableEq

/-- The tokens that are left, and what has been collected. -/
structure State where
  /-- The tokens that are left, without the one for the end. -/
  ahead : List Token
  /-- The token for the end of the query. -/
  last : Token
  /-- The number of variables made up so far. -/
  anonymous : Nat := 0
  /-- The point of focus, once it was met. -/
  focus : Option Marker := none
  /-- What has been collected. -/
  scope : Scope

/-- A step of the parser. -/
abbrev Parser := ExceptT Error (StateM State)

/-- The token at hand. -/
def State.token (s : State) : Token := s.ahead.headD s.last

/-- The token after the one at hand. -/
def State.next (s : State) : Token := s.ahead.tail.headD s.last

/-- The token at hand. -/
def token : Parser Token := return (← get).token

/-- Takes the token at hand; the end of the query stays. -/
def advance : Parser Token := modifyGet fun s => (s.token, { s with ahead := s.ahead.tail })

/-- Stops with a fault at the given token. -/
def failAt {α : Type} (t : Token) (cause : Cause) : Parser α := throw (.at t.start cause)

/-- Stops with a fault at the token at hand. -/
def fail {α : Type} (cause : Cause) : Parser α := do failAt (← token) cause

/-- Changes the scope. -/
def collect (change : Scope → Scope) : Parser Unit := modify fun s => { s with scope := change s.scope }

/-- Adds the pattern under construction to the scope. -/
def collectPattern : Parser Unit := do
  match (← get).scope.addPattern with
  | .ok scope => collect fun _ => scope
  | .error _ => throw .incomplete

/-- Whether the token is one of the keywords, in any case. -/
def Token.isKeyword (t : Token) (words : List String) : Bool :=
  t.kind = .word && words.contains (upper t.text)

/-- Whether the token at hand is one of the keywords. -/
def atKeyword (words : List String) : Parser Bool := return (← token).isKeyword words

/-- Whether the token at hand is the symbol. -/
def atSymbol (symbol : Symbol) : Parser Bool := return (← token).kind = .symbol symbol

/-- Takes the token at hand if it is of the kind, and stops otherwise. -/
def expect (kind : Kind) (what : String) : Parser Token := do
  if (← token).kind = kind then advance else fail (.expected what (← token))

/-- Takes the symbol at hand, and stops if there is another token. -/
def expectSymbol (symbol : Symbol) : Parser Token :=
  expect (.symbol symbol) ("'" ++ symbol.text ++ "'")

/-- Takes the keyword at hand, and stops if there is another token. -/
def expectKeyword (keyword : String) : Parser Token := do
  if ← atKeyword [keyword] then advance else fail (.expected keyword (← token))

/-- Takes the token at hand if it is one of the keywords. -/
def skipKeyword (words : List String) : Parser Unit := do
  if ← atKeyword words then let _ ← advance

/-- A variable that no earlier step has made up. -/
def freshVariable : Parser Term :=
  modifyGet fun s => (.var ("_anon" ++ s.anonymous.repr), { s with anonymous := s.anonymous + 1 })

/-- Runs a step with an empty pattern under construction, and puts the old one back whatever comes of it. -/
def nested {α : Type} (step : Parser α) : Parser α := fun s =>
  let (result, after) := step { s with scope := { s.scope with current := {} } }
  (result, { after with scope := { after.scope with current := s.scope.current } })

/-! ### Brackets -/

/-- What is left after the brackets that are open, given the closing ones that are awaited, innermost first. A fault
comes with what is left after the tokens that were looked at. -/
def afterBrackets (opening : Token) : List Symbol → List Token → Except (Error × List Token) (List Token)
  | [], rest => .ok rest
  | _ :: _, [] => .error (.at opening.start (.unbalanced opening.text), [])
  | awaited :: outer, t :: rest =>
    match t.kind with
    | .symbol symbol =>
      match symbol.closing? with
      | some closing => afterBrackets opening (closing :: awaited :: outer) rest
      | none =>
        if symbol = awaited then afterBrackets opening outer rest
        else if symbol.isClosing then .error (.at t.start (.unexpectedClosing t.text), rest)
        else afterBrackets opening (awaited :: outer) rest
    | _ => afterBrackets opening (awaited :: outer) rest

/-- The symbol that closes the token, if it opens a bracket. -/
def Token.closing? (t : Token) : Option Symbol :=
  match t.kind with
  | .symbol symbol => symbol.closing?
  | _ => none

/-- Takes the bracket at hand with everything up to its closing one. -/
def skipBrackets : Parser Unit := do
  let opening ← advance
  match afterBrackets opening opening.closing?.toList (← get).ahead with
  | .ok rest => modify fun s => { s with ahead := rest }
  | .error (e, rest) =>
    modify fun s => { s with ahead := rest }
    throw e

end PointOfFocus.Query
