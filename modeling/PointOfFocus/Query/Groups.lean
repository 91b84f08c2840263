import PointOfFocus.Query.Triples

/-!
# Groups of patterns

A group holds blocks of triples, further groups, and elements that start with a keyword. Expressions and blocks of
values are skipped as a whole: they hold no patterns.
-/

namespace PointOfFocus.Query

/-- The keywords that start an element of a group. -/
def elementKeywords : List String :=
  ["OPTIONAL", "MINUS", "GRAPH", "FILTER", "BIND", "VALUES", "SERVICE"]

/-- Skips the bracket at hand, and stops with the cause if there is another token. -/
def skipBracket (symbol : Symbol) (cause : Cause) : Parser Unit := do
  if ← atSymbol symbol then skipBrackets else fail cause

/-- Whether the token can be the name of a function. -/
def Token.isFunctionName (t : Token) : Bool :=
  t.kind = .word || t.kind = .prefixedName || t.kind = .iri

/-- The constraint of a filter: an expression, a test for existence or a function call. The words for a negated
test stand before one of the latter two. -/
def constraint : Parser Unit := do
  if ← atSymbol .openParen then skipBrackets
  else
    if ← atKeyword ["NOT"] then
      let _ ← advance
      let _ ← expectKeyword "EXISTS"
    if ← atKeyword ["EXISTS"] then
      let _ ← advance
      skipBracket .openBrace .missingGroup
    else if (← token).isFunctionName && (← get).next.kind = .symbol .openParen then
      let _ ← advance
      skipBrackets
    else fail .missingConstraint

/-- A block of values. -/
def values : Parser Unit := do
  if (← token).kind = .var then let _ ← advance
  else skipBracket .openParen .missingVariables
  skipBracket .openBrace .missingValues

/-- A group in a named graph or at a service, given how to read a group. -/
def namedGroup (group : Parser Unit) (keyword : String) : Parser Unit := do
  if keyword = "SERVICE" then skipKeyword ["SILENT"]
  match (← token).kind with
  | .var | .iri | .prefixedName =>
    let _ ← simpleTerm .subject
    group
  | _ => fail (.missingGraphName keyword)

/-- An element that starts with a keyword, given how to read a group. -/
def element (group : Parser Unit) : Parser Unit := do
  let keyword := Text.upper (← advance).text
  if keyword = "OPTIONAL" || keyword = "MINUS" then group
  else if keyword = "GRAPH" || keyword = "SERVICE" then namedGroup group keyword
  else if keyword = "FILTER" then constraint
  else if keyword = "BIND" then skipBracket .openParen .missingBinding
  else values

/-- The groups that are joined to the one before by a keyword. -/
def unions (group : Parser Unit) : Nat → Parser Unit
  | 0 => fail .tooDeep
  | bound + 1 => do
    if ← atKeyword ["UNION"] then
      let _ ← advance
      group
      unions group bound

/-- Whether a block of triples can end before the token. -/
def Token.endsTriples (t : Token) : Bool :=
  match t.kind with
  | .symbol .dot | .symbol .closeBrace | .symbol .openBrace | .eof => true
  | _ => t.isKeyword elementKeywords

/-- The elements of a group up to its closing brace, given how to read a group inside it. -/
def elements (group : Parser Unit) (opening : Token) : Nat → Parser Unit
  | 0 => fail .tooDeep
  | bound + 1 => do
    let t ← token
    match t.kind with
    | .symbol .closeBrace =>
      let _ ← advance
    | .eof => failAt opening .unterminatedGroup
    | .symbol .dot =>
      let _ ← advance
      elements group opening bound
    | .symbol .openBrace =>
      group
      unions group bound
      elements group opening bound
    | _ =>
      if t.isKeyword elementKeywords then element group
      else
        triples bound
        if !(← token).endsTriples then fail (.expected "'.' or '\x7d'" (← token))
      elements group opening bound

/-- A group whose nesting has at most the given depth. -/
def group : Nat → Parser Unit
  | 0 => fail .tooDeep
  | bound + 1 => do
    let opening ← expectSymbol .openBrace
    if ← atKeyword ["SELECT"] then fail .subQuery
    elements (group bound) opening bound

end PointOfFocus.Query
