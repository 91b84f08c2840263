import PointOfFocus.Query.Names

/-!
# Verbs

The predicate of a triple: the point of focus, a variable, or a property path. A path is read with a bound on its
depth; a path in parentheses is one level deeper, and every item of a list of paths uses at least one token.
-/

namespace PointOfFocus.Query

open PointOfFocus.Rdf

/-- The items after the first of a list with the given separator, of which there are at most `bound`. -/
def separated {α : Type} (separator : Symbol) (item : Parser α) : Nat → Parser (List α)
  | 0 => fail .tooDeep
  | bound + 1 => do
    if ← atSymbol separator then
      let _ ← advance
      let first ← item
      return first :: (← separated separator item bound)
    else return []

/-- A path that is one IRI or stands in parentheses, given how to read a path in parentheses. -/
def pathPrimary (inner : Parser Term) : Parser Term := do
  let t ← token
  match t.kind with
  | .iri => return .iri (unwrap 1 (← advance).text)
  | .prefixedName => return .iri (← resolveName (← advance))
  | .symbol .openParen =>
    let _ ← advance
    let path ← inner
    let _ ← expectSymbol .closeParen
    return path
  | .symbol .bang => fail .negation
  | _ =>
    if t.kind = .word && t.text = "a" then
      let _ ← advance
      return .iri typeIri
    else fail (.expected "a predicate" t)

/-- Whether the token repeats a path. -/
def Token.isRepetition (t : Token) : Bool :=
  t.kind = .symbol .star || t.kind = .symbol .plus || t.kind = .symbol .question

/-- A path that may be walked backwards. -/
def pathStep (inner : Parser Term) : Parser Term := do
  let inverse ← atSymbol .caret
  if inverse then let _ ← advance
  let path ← pathPrimary inner
  if (← token).isRepetition then fail .repetition
  return if inverse then .inverse path else path

/-- A sequence of paths. -/
def pathSequence (bound : Nat) (inner : Parser Term) : Parser Term := do
  let first ← pathStep inner
  match ← separated .slash (pathStep inner) bound with
  | [] => return first
  | rest => return .sequenceOf (first :: rest)

/-- A path of at most the given depth. -/
def path : Nat → Parser Term
  | 0 => fail .tooDeep
  | bound + 1 => do
    let first ← pathSequence bound (path bound)
    match ← separated .bar (pathSequence bound (path bound)) bound with
    | [] => return first
    | rest => return .alternativeOf (first :: rest)

/-- The predicate of a triple. -/
def verb (bound : Nat) : Parser Term := do
  match (← token).kind with
  | .focus _ => pointOfFocus .predicate
  | .var => return .var (dropFirst 1 (← advance).text)
  | _ => path bound

/-- Whether a predicate can start with the token. -/
def Token.startsVerb (t : Token) : Bool :=
  match t.kind with
  | .var | .iri | .prefixedName | .focus _ => true
  | .symbol .caret | .symbol .openParen | .symbol .bang => true
  | .word => t.text = "a"
  | _ => false

/-- Whether an object can start with the token. -/
def Token.startsObject (t : Token) : Bool :=
  match t.kind with
  | .var | .iri | .prefixedName | .blank | .string | .integer | .decimal | .double | .focus _ => true
  | .symbol .openBracket | .symbol .openParen | .symbol .plus | .symbol .minus => true
  | _ => t.isTruth

end PointOfFocus.Query
