import PointOfFocus.Scope.Component

/-!
# Paths of several predicates

When a path of `n` predicates is sought, the pattern whose predicate is the point of focus is replaced by a chain
of `n` patterns with one variable for each predicate and for each node between. The projection then puts the
predicates together in one text.
-/

namespace PointOfFocus

open PointOfFocus.Number
open PointOfFocus.Rdf

/-- The projection of a path: the predicates in angle brackets with slashes between them. -/
def pathProjection (length : Int) : String :=
  let hops := (countTo length).map fun i => "\"<\", ?POF" ++ integerText i ++ ", \">\""
  "(concat(" ++ ", \" / \", ".intercalate hops ++ ") as ?POF)"

/-- The node of a chain after the given number of hops, named after the chain's ends. -/
def chainNode (start : Term) (stem : String) (hops : Nat) : Term :=
  if hops = 0 then start else .named (stem ++ hops.repr)

/-- The patterns of a chain before its last one. -/
def chainPatterns (start : Term) (stem : String) (count : Nat) : List Pattern :=
  (List.range count).map fun i =>
    { subject := chainNode start stem i, predicate := .hop (i + 1), object := chainNode start stem (i + 1) }

namespace Scope

/-- Writes out the path that is sought: its last pattern stands in the place of the focus, the others at the end. -/
def expand (s : Scope) : Scope :=
  if s.pathLength = 0 then s
  else
    match s.patterns.dropWhile (!·.predicate.isFocus) with
    | [] => s
    | p :: after =>
      let before := s.patterns.takeWhile (!·.predicate.isFocus)
      let stem := p.subject.name ++ p.object.name
      let count := (s.pathLength - 1).toNat
      let last := { p with subject := chainNode p.subject stem count, predicate := .hop s.pathLength }
      { s with
        patterns := before ++ last :: after ++ chainPatterns p.subject stem count
        projection := pathProjection s.pathLength }

end Scope

end PointOfFocus
