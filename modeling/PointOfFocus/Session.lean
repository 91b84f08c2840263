import PointOfFocus.Error

/-!
# Sessions

A session holds a query text and the scope that is filled from it, with a template and further values for it, and how
far the last reading came. It serves one query after the other: after a reset nothing of the last query is left. Every
operation gives a new session and a result; an operation that fails keeps what it did before the fault.
-/

namespace PointOfFocus

open PointOfFocus.Rdf

/-- The state of a session. -/
structure Session where
  /-- The text of the query. -/
  text : String := ""
  /-- What has been collected about the query. -/
  scope : Scope := {}
  /-- How far the last reading came. -/
  progress : Query.Progress := {}
  /-- The template of recommendation queries. -/
  template : Template := .recommendation
  /-- Further values for the template. -/
  context : List (String × Data.Value) := []

/-- What can be done in a session. -/
inductive Operation where
  /-- Reads the query into the scope. -/
  | parse
  /-- Empties the scope and, if there is a text, turns to it. -/
  | reset (text : Option String)
  /-- Empties the scope. -/
  | clear
  /-- Prepares the scope and writes the recommendation query. -/
  | complete
  /-- Fills the template with the scope as it is. -/
  | render
  /-- Keeps only the patterns around the point of focus. -/
  | trim
  /-- Writes out the path that is sought. -/
  | expand
  /-- Marks the leaves. -/
  | markLeaves
  /-- Sets the subject of the pattern under construction. -/
  | setSubject (t : Term)
  /-- Sets the predicate of the pattern under construction. -/
  | setPredicate (t : Term)
  /-- Sets the object of the pattern under construction. -/
  | setObject (t : Term)
  /-- Adds the pattern under construction. -/
  | addPattern
  /-- Sets the keyword, if there is one. -/
  | setKeyword (word : Option String)
  /-- Sets the start of the IRIs that are sought, or drops it. -/
  | setIriStart (iri : Option String)
  /-- Sets the length of the path that is sought. -/
  | setPathLength (length : Data.Value)
  /-- Sets the base IRI, or drops it. -/
  | setBase (iri : Option String)
  /-- Declares a prefix. -/
  | addPrefix (label iri : String)
  /-- Reads a template and uses it from now on. -/
  | useTemplate (text : String)
  /-- Uses other further values from now on. -/
  | useContext (context : List (String × Data.Value))

namespace Session

/-- The session with another scope. -/
def withScope (s : Session) (scope : Scope) : Session := { s with scope }

/-- An operation that only changes the scope and cannot fail. -/
def change (s : Session) (f : Scope → Scope) : Except Error (Option String) × Session :=
  (.ok none, s.withScope (f s.scope))

/-- An operation that may fail, and then changes nothing. -/
def attempt {ε : Type} (s : Session) (wrap : ε → Error) (result : Except ε Session) :
    Except Error (Option String) × Session :=
  match result with
  | .ok after => (.ok none, after)
  | .error e => (.error (wrap e), s)

/-- Does an operation: its result, which is a text for the two that write a query, and the session after it. -/
def run (s : Session) : Operation → Except Error (Option String) × Session
  | .parse =>
    let (result, scope, progress) := Query.readInto s.scope s.progress s.text.toList
    ((result.map fun _ => none).mapError (.query s.text.toList), { s with scope, progress })
  | .reset text => (.ok none, { s with scope := {}, progress := {}, text := text.getD s.text })
  | .clear => s.change fun _ => {}
  | .complete =>
    let (result, scope) := s.scope.recommendationQuery s.template s.context
    ((result.map some).mapError .render, s.withScope scope)
  | .render => (((s.template.render s.scope s.context).map some).mapError .render, s)
  | .trim => s.attempt .term (s.scope.trim.map s.withScope)
  | .expand => s.change Scope.expand
  | .markLeaves =>
    let (result, scope) := s.scope.markLeaves
    ((result.map fun _ => none).mapError .term, s.withScope scope)
  | .setSubject t => s.change (Scope.setSubject t)
  | .setPredicate t => s.change (Scope.setPredicate t)
  | .setObject t => s.change (Scope.setObject t)
  | .addPattern => s.attempt (fun _ => .incomplete) (s.scope.addPattern.map s.withScope)
  | .setKeyword word => s.change (Scope.setKeyword (word.getD ""))
  | .setIriStart iri => s.change fun scope => { scope with iriStart := iri }
  | .setPathLength length =>
    s.attempt .number (length.toInteger.map fun n => s.withScope (s.scope.setPathLength n))
  | .setBase iri => s.change fun scope => { scope with base := iri }
  | .addPrefix label iri => s.change (Scope.addPrefix label iri)
  | .useTemplate text => s.attempt .template ((Template.compile text).map fun template => { s with template })
  | .useContext context => (.ok none, { s with context })

/-- Does operations one after the other, whatever comes of each: their results, and the session after them. -/
def runAll (s : Session) : List Operation → List (Except Error (Option String)) × Session
  | [] => ([], s)
  | operation :: rest =>
    let (result, next) := s.run operation
    let (results, last) := next.runAll rest
    (result :: results, last)

end Session

end PointOfFocus
