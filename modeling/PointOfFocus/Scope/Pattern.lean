import PointOfFocus.Rdf.Term

/-!
# Triple patterns

A triple pattern relates a subject to an object by a predicate. Two patterns are connected when they share a term,
and terms are told apart by their keys.
-/

namespace PointOfFocus

open PointOfFocus.Rdf

/-- A triple pattern. -/
structure Pattern where
  /-- The subject. -/
  subject : Term
  /-- The predicate. -/
  predicate : Term
  /-- The object. -/
  object : Term
  /-- Whether the object is known not to be the subject of a pattern. -/
  leaf : Bool := false
deriving Inhabited

namespace Pattern

/-- The keys of the three terms, in order. -/
def keys (p : Pattern) : Except TermError (List String) := do
  return [← p.subject.key, ← p.predicate.key, ← p.object.key]

/-- The pattern as a query writes it. -/
def render (p : Pattern) : Except TermError String := do
  return (← p.subject.render) ++ " " ++ (← p.predicate.renderPredicate) ++ " " ++ (← p.object.render) ++ " ."

end Pattern

/-- Whether some key is among those reached. -/
def touches (keys reached : List String) : Bool :=
  keys.any reached.contains

end PointOfFocus
