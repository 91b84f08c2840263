import PointOfFocus.Query.Groups

/-!
# Reading a query

A query declares prefixes, says what it selects and from where, has one group of patterns, and may end with
modifiers. Reading it fills a scope with its patterns, the point of focus standing for a variable. The number of
tokens bounds the depth of nesting and the length of every list, so that the bound is never met.
-/

namespace PointOfFocus.Query

/-- The declarations before the query proper. -/
def prologue : Nat → Parser Unit
  | 0 => fail .tooDeep
  | bound + 1 => do
    if ← atKeyword ["BASE"] then
      let _ ← advance
      let iri ← expectIri "an IRI"
      collect (Scope.setBase iri)
      prologue bound
    else if ← atKeyword ["PREFIX"] then
      let _ ← advance
      let t ← expect .prefixedName "a prefix label"
      let (label, part) := splitName t.text
      if part ≠ "" then failAt t (.badLabel t.text)
      let iri ← expectIri "an IRI"
      collect (Scope.addPrefix label iri)
      prologue bound

/-- The variables and expressions that a query selects: their number. -/
def projections : Nat → Parser Nat
  | 0 => fail .tooDeep
  | bound + 1 => do
    match (← token).kind with
    | .var =>
      let _ ← advance
      return (← projections bound) + 1
    | .symbol .openParen =>
      skipBrackets
      return (← projections bound) + 1
    | _ => return 0

/-- What the query selects. -/
def selectClause (bound : Nat) : Parser Unit := do
  let _ ← expectKeyword "SELECT"
  skipKeyword ["DISTINCT", "REDUCED"]
  if ← atSymbol .star then let _ ← advance
  else if (← projections bound) = 0 then fail .missingProjection

/-- The graphs that the query is asked of. -/
def datasets : Nat → Parser Unit
  | 0 => fail .tooDeep
  | bound + 1 => do
    if ← atKeyword ["FROM"] then
      let _ ← advance
      skipKeyword ["NAMED"]
      if (← token).kind = .prefixedName then let _ ← resolveName (← advance)
      else let _ ← expectIri "a graph IRI"
      datasets bound

/-- The keywords that start a modifier. -/
def modifierKeywords : List String :=
  ["GROUP", "HAVING", "ORDER", "LIMIT", "OFFSET"]

/-- Takes the tokens up to the next modifier: their number. -/
def skipCondition : Nat → Parser Nat
  | 0 => fail .tooDeep
  | bound + 1 => do
    let t ← token
    if t.kind = .eof || t.isKeyword modifierKeywords then return 0
    else
      if t.closing?.isSome then skipBrackets else let _ ← advance
      return (← skipCondition bound) + 1

/-- The condition of a modifier, which is not empty. -/
def condition (bound : Nat) : Parser Unit := do
  if (← skipCondition bound) = 0 then fail .missingCondition

/-- The modifiers up to the end of the query. -/
def modifiers : Nat → Parser Unit
  | 0 => fail .tooDeep
  | bound + 1 => do
    let t ← token
    if t.kind = .eof then return
    else if t.isKeyword ["LIMIT", "OFFSET"] then
      let _ ← advance
      let _ ← expect .integer "an integer"
    else if t.isKeyword ["GROUP", "ORDER"] then
      let _ ← advance
      let _ ← expectKeyword "BY"
      condition bound
    else if t.isKeyword ["HAVING"] then
      let _ ← advance
      condition bound
    else fail (.afterPattern t)
    modifiers bound

/-- A whole query. -/
def query (bound : Nat) : Parser Unit := do
  prologue bound
  selectClause bound
  datasets bound
  skipKeyword ["WHERE"]
  group bound
  modifiers bound
  let _ ← expect .eof "end of query"

/-- Reads the tokens of a query of the given length into a scope. What was collected before a fault stays. -/
def parseTokens (scope : Scope) (ts : List Token) (length : Nat) : Except Error Unit × Scope :=
  let (result, after) := query (ts.length + 2) { ahead := ts, last := .eof length, scope }
  (result, after.scope)

/-- Reads a query into a scope. What was collected before a fault stays. -/
def parseInto (scope : Scope) (text : List Char) : Except Error Unit × Scope :=
  match tokens text with
  | .error e => (.error (.ofToken e), scope)
  | .ok ts => parseTokens scope ts text.length

/-- How far a reading of a query came. -/
structure Progress where
  /-- The tokens of the query, with the one for its end. -/
  tokens : List Token := []
  /-- The number of tokens that were taken. -/
  taken : Nat := 0
  /-- The number of variables that were made up. -/
  anonymous : Nat := 0
  /-- The point of focus, if it was met. -/
  focus : Option Marker := none

/-- Reads a query into a scope, from its first token on, and tells how far it came. A text that cannot be cut into
tokens leaves the progress of the reading before. -/
def readInto (scope : Scope) (before : Progress) (text : List Char) : Except Error Unit × Scope × Progress :=
  match tokens text with
  | .error e => (.error (.ofToken e), scope, before)
  | .ok ts =>
    let (result, after) := query (ts.length + 2) { ahead := ts, last := .eof text.length, scope }
    (result, after.scope,
      { tokens := ts ++ [.eof text.length], taken := ts.length - after.ahead.length, anonymous := after.anonymous,
        focus := after.focus })

/-- The progress before a reading has no part in what is read. -/
theorem readInto_eq_parseInto (scope : Scope) (before : Progress) (text : List Char) :
    ((readInto scope before text).1, (readInto scope before text).2.1) = parseInto scope text := by
  unfold readInto parseInto parseTokens
  cases tokens text <;> rfl

/-- The scope of a query. -/
def parse (text : List Char) : Except Error Scope :=
  let (result, scope) := parseInto {} text
  result.map fun _ => scope

end PointOfFocus.Query
