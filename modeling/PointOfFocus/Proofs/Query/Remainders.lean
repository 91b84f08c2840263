import PointOfFocus.Query.Parse

/-!
# What productions go on with

Some productions start with a part that may be missing or that has several forms, and go on in the same way after it.
What they go on with has a name here, and each of these productions is its first part with that behind
(`pathStep_eq`, `triples_eq`, `constraint_eq`, `query_eq`). So what is true of such a production is shown for the remainder first
and then for each form of the part before.
-/

namespace PointOfFocus.Query

open PointOfFocus.Rdf

/-- A step of a path after the place of its caret. -/
def pathStepRest (inner : Parser Term) (inverse : Bool) : Parser Term := do
  let path ← pathPrimary inner
  if (← token).isRepetition then fail .repetition
  return if inverse then .inverse path else path

/-- A step of a path is its sign, if it has one, and then the rest. -/
theorem pathStep_eq (inner : Parser Term) :
    pathStep inner =
      (do
        let inverse ← atSymbol .caret
        if inverse then
          let _ ← advance
          pathStepRest inner inverse
        else pathStepRest inner inverse) := rfl

/-- A block of triples after its subject, which needs a predicate if it holds no triples of its own. -/
def triplesRest (bound : Nat) (isBlank isCollection : Bool) (subject : Term) : Parser Unit := do
  collect (Scope.setSubject subject)
  if (← token).startsVerb then propertyList (object bound) bound
  else if !isBlank && !isCollection then fail (.expected "a predicate" (← token))

/-- A block of triples is its subject, where one is written in brackets, and then the rest. -/
theorem triples_eq (bound : Nat) :
    triples bound =
      (do
        let isBlank ← atBlankNode
        let isCollection ← atSymbol .openParen
        if isBlank then triplesRest bound isBlank isCollection (← blankNode (object bound) bound)
        else if isCollection then triplesRest bound isBlank isCollection (← collection (object bound) bound)
        else triplesRest bound isBlank isCollection (← graphNode .subject)) := rfl

/-- A constraint after the words for a negated test, or where they would stand: a test for existence or a call. -/
def constraintRest : Parser Unit := do
  if ← atKeyword ["EXISTS"] then
    let _ ← advance
    skipBracket .openBrace .missingGroup
  else if (← token).isFunctionName && (← get).next.kind = .symbol .openParen then
    let _ ← advance
    skipBrackets
  else fail .missingConstraint

/-- A constraint is an expression in parentheses, or the words for a negated test and then the rest. -/
theorem constraint_eq :
    constraint =
      (do
        if ← atSymbol .openParen then skipBrackets
        else if ← atKeyword ["NOT"] then
          let _ ← advance
          let _ ← expectKeyword "EXISTS"
          constraintRest
        else constraintRest) := rfl

/-- A group at an element that starts with neither a brace nor a dot, of which the token is the first. -/
def elementsRest (group : Parser Unit) (opening : Token) (bound : Nat) (first : Token) : Parser Unit :=
  if first.isKeyword elementKeywords then do
    element group
    elements group opening bound
  else do
    triples bound
    if !(← token).endsTriples then fail (.expected "'.' or '\x7d'" (← token))
    elements group opening bound

/-- A declaration after its keyword and its label, given what to declare, with the declarations behind it. -/
def prologueRest (change : String → Scope → Scope) (bound : Nat) : Parser Unit := do
  let iri ← expectIri "an IRI"
  collect (change iri)
  prologue bound

/-- A query from its group on, or from the keyword before the group. -/
def queryRest (bound : Nat) : Parser Unit := do
  skipKeyword ["WHERE"]
  group bound
  modifiers bound
  let _ ← expect .eof "end of query"

theorem query_eq (bound : Nat) :
    query bound =
      (do
        prologue bound
        selectClause bound
        datasets bound
        queryRest bound) := rfl

end PointOfFocus.Query
