import PointOfFocus.Data.Value
import PointOfFocus.Scope.Pattern

/-!
# The scope of a recommendation

Reading a query fills a scope: the triple patterns met so far, the pattern under construction, the declared
prefixes, and what was typed at the point of focus. The operations here are the ones by which it is filled.
-/

namespace PointOfFocus

open PointOfFocus.Rdf

/-- The pattern under construction, of which parts may still be missing. -/
structure Cursor where
  /-- The subject, once known. -/
  subject : Option Term := none
  /-- The predicate, once known. -/
  predicate : Option Term := none
  /-- The object, once known. -/
  object : Option Term := none

/-- The projection of the point of focus in a query that is not about a path. -/
def defaultProjection : String := "?POF"

/-- What has been collected about a query. -/
structure Scope where
  /-- The triple patterns, in the order in which they were completed. -/
  patterns : List Pattern := []
  /-- The pattern under construction. -/
  current : Cursor := {}
  /-- The declared prefixes, each label with its IRI, in the order of their first declaration. -/
  prefixes : List (String × String) := []
  /-- The base IRI. -/
  base : Option String := none
  /-- The word typed before the point of focus. -/
  keyword : Option String := none
  /-- The start of the IRIs that are sought. -/
  iriStart : Option String := none
  /-- The number of predicates on the path that is sought, zero if no path is. -/
  pathLength : Int := 0
  /-- The projection of the point of focus. -/
  projection : String := defaultProjection

namespace Scope

/-- Why a pattern cannot be added: a part of it is missing. -/
inductive IncompletePattern where
  | incomplete
deriving DecidableEq

/-- The wording of the fault. -/
def IncompletePattern.message : IncompletePattern → String
  | .incomplete => "Cannot add an incomplete triple pattern."

/-- Sets the subject of the pattern under construction. -/
def setSubject (t : Term) (s : Scope) : Scope :=
  { s with current := { s.current with subject := some t } }

/-- Sets the predicate of the pattern under construction. -/
def setPredicate (t : Term) (s : Scope) : Scope :=
  { s with current := { s.current with predicate := some t } }

/-- Sets the object of the pattern under construction. -/
def setObject (t : Term) (s : Scope) : Scope :=
  { s with current := { s.current with object := some t } }

/-- Adds the pattern under construction, which stays as it is. -/
def addPattern (s : Scope) : Except IncompletePattern Scope :=
  match s.current with
  | ⟨some subject, some predicate, some object⟩ =>
    .ok { s with patterns := s.patterns ++ [{ subject, predicate, object }] }
  | _ => .error .incomplete

/-- Sets the keyword, unless it is empty. -/
def setKeyword (word : String) (s : Scope) : Scope :=
  if word = "" then s else { s with keyword := some word }

/-- Sets the start of the IRIs that are sought. -/
def setIriStart (iri : String) (s : Scope) : Scope :=
  { s with iriStart := some iri }

/-- Sets the number of predicates on the path that is sought. -/
def setPathLength (length : Int) (s : Scope) : Scope :=
  { s with pathLength := length }

/-- Declares a prefix; a label that is declared again keeps its place. -/
def addPrefix (label iri : String) (s : Scope) : Scope :=
  { s with prefixes := Data.setEntry s.prefixes label iri }

/-- The IRI of a declared prefix. -/
def prefixIri? (s : Scope) (label : String) : Option String :=
  Data.valueOf? s.prefixes label

/-- Sets the base IRI. -/
def setBase (iri : String) (s : Scope) : Scope :=
  { s with base := some iri }

end Scope

end PointOfFocus
