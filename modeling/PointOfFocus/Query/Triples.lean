import PointOfFocus.Query.Verb

/-!
# Triples

A block of triples has one subject, predicates divided by semicolons and objects divided by commas. Blank nodes in
brackets and collections hold triples of their own, which are collected before the triple that uses them. As for
paths, the bound counts levels of nesting, and every item of a list uses at least one token.
-/

namespace PointOfFocus.Query

open PointOfFocus.Rdf

/-- Objects divided by commas, each of which completes a pattern. -/
def objects (object : Parser Term) : Nat → Parser Unit
  | 0 => fail .tooDeep
  | bound + 1 => do
    let t ← object
    collect (Scope.setObject t)
    collectPattern
    if ← atSymbol .comma then
      let _ ← advance
      objects object bound

/-- The objects of a predicate; only the point of focus may have none. -/
def objectList (object : Parser Term) (bound : Nat) (predicate : Term) : Parser Unit := do
  if (← token).startsObject then objects object bound
  else if predicate.isFocus then
    collect (Scope.setObject .filler)
    collectPattern
  else fail (.expected "an object" (← token))

/-- Takes any number of semicolons. -/
def skipSemicolons : Parser Unit :=
  modify fun s => { s with ahead := s.ahead.dropWhile (·.kind = .symbol .semicolon) }

/-- Predicates with their objects, divided by semicolons. -/
def propertyList (object : Parser Term) : Nat → Parser Unit
  | 0 => fail .tooDeep
  | bound + 1 => do
    let predicate ← verb bound
    collect (Scope.setPredicate predicate)
    objectList object bound predicate
    if ← atSymbol .semicolon then
      skipSemicolons
      if (← token).startsVerb then propertyList object bound

/-- A blank node in brackets with its own predicates and objects. -/
def blankNode (object : Parser Term) (bound : Nat) : Parser Term := do
  let _ ← expectSymbol .openBracket
  let node ← freshVariable
  nested do
    collect (Scope.setSubject node)
    if !(← token).startsVerb then fail .missingPredicate
    propertyList object bound
  let _ ← expectSymbol .closeBracket
  return node

/-- The items of a collection, up to its closing parenthesis. -/
def items (object : Parser Term) (opening : Token) : Nat → Parser (List Term)
  | 0 => fail .tooDeep
  | bound + 1 => do
    let t ← token
    if t.kind = .symbol .closeParen then
      let _ ← advance
      return []
    else if t.kind = .eof then failAt opening .unterminatedCollection
    else
      let item ← object
      return item :: (← items object opening bound)

/-- A fresh variable for each item. -/
def freshNodes : List Term → Parser (List Term)
  | [] => return []
  | _ :: rest => do
    let node ← freshVariable
    return node :: (← freshNodes rest)

/-- Adds the pattern with the given parts to the scope. -/
def link (subject : Term) (predicate : String) (object : Term) : Parser Unit := do
  collect (Scope.setSubject subject)
  collect (Scope.setPredicate (.iri predicate))
  collect (Scope.setObject object)
  collectPattern

/-- Adds the patterns that make a list of the nodes with the items. -/
def linkNodes : List (Term × Term) → Parser Unit
  | [] => return ()
  | (node, item) :: rest => do
    link node firstIri item
    link node restIri ((rest.head?.map (·.1)).getD (.iri nilIri))
    linkNodes rest

/-- A collection: the first node of its list. -/
def collection (object : Parser Term) (bound : Nat) : Parser Term := do
  let opening ← expectSymbol .openParen
  let terms ← items object opening bound
  let nodes ← freshNodes terms
  match nodes with
  | [] => return .iri nilIri
  | first :: _ =>
    nested (linkNodes (nodes.zip terms))
    return first

/-- A term that is no blank node with predicates and no collection; empty brackets are a fresh variable. -/
def graphNode (role : Role) : Parser Term := do
  if ← atSymbol .openBracket then
    let _ ← advance
    let _ ← expectSymbol .closeBracket
    freshVariable
  else simpleTerm role

/-- Whether the token at hand opens a blank node with predicates. -/
def atBlankNode : Parser Bool := do
  let s ← get
  return s.token.kind = .symbol .openBracket && s.next.kind ≠ .symbol .closeBracket

/-- An object whose nesting has at most the given depth. -/
def object : Nat → Parser Term
  | 0 => fail .tooDeep
  | bound + 1 => do
    if ← atBlankNode then blankNode (object bound) bound
    else if ← atSymbol .openParen then collection (object bound) bound
    else graphNode .object

/-- A block of triples; a subject that holds triples of its own needs no predicate. -/
def triples (bound : Nat) : Parser Unit := do
  let isBlank ← atBlankNode
  let isCollection ← atSymbol .openParen
  let subject ←
    if isBlank then blankNode (object bound) bound
    else if isCollection then collection (object bound) bound
    else graphNode .subject
  collect (Scope.setSubject subject)
  if (← token).startsVerb then propertyList (object bound) bound
  else if !isBlank && !isCollection then fail (.expected "a predicate" (← token))

end PointOfFocus.Query
