import PointOfFocus.Scope.Chain

/-!
# What is recommended

The place of the point of focus decides what kind of term is sought. Before the recommendation query is written,
the scope is prepared: trimmed to the part around the focus, its path written out, and its leaves marked.
-/

namespace PointOfFocus

open PointOfFocus.Rdf

/-- The kinds of recommendations. -/
inductive Recommendation where
  /-- There is no point of focus. -/
  | none
  /-- A class. -/
  | cls
  /-- A predicate. -/
  | predicate
  /-- A path of predicates. -/
  | path
  /-- A subject. -/
  | subject
  /-- An object. -/
  | object
deriving DecidableEq

/-- The name of the kind. -/
def Recommendation.text : Recommendation → String
  | .none => "none"
  | .cls => "class"
  | .predicate => "predicate"
  | .path => "path"
  | .subject => "subject"
  | .object => "object"

/-- The kind of recommendation that a pattern asks for, if it has the point of focus. -/
def Pattern.recommendation? (p : Pattern) : Option Recommendation :=
  if p.predicate.isFocus then some .predicate
  else if p.predicate.isType && p.object.isFocus then some .cls
  else if p.object.isFocus then some .object
  else if p.subject.isFocus then some .subject
  else Option.none

namespace Scope

/-- The kind of recommendation: that of the first pattern with the point of focus, unless a path is sought. -/
def recommendation (s : Scope) : Recommendation :=
  if s.pathLength ≠ 0 then .path else (s.patterns.findSome? Pattern.recommendation?).getD .none

/-- Marks the patterns whose object is not among the subjects, up to the first whose object has no key. -/
def markAgainst (subjects : List String) : List Pattern → Except TermError Unit × List Pattern
  | [] => (.ok (), [])
  | p :: ps =>
    match p.object.key with
    | .error e => (.error e, p :: ps)
    | .ok key =>
      let (result, marked) := markAgainst subjects ps
      (result, { p with leaf := !subjects.contains key } :: marked)

/-- Marks the patterns whose object is not the subject of any pattern. What was marked before a fault stays. -/
def markLeaves (s : Scope) : Except TermError Unit × Scope :=
  match s.patterns.mapM fun p => p.subject.key with
  | .error e => (.error e, s)
  | .ok subjects =>
    let (result, marked) := markAgainst subjects s.patterns
    (result, { s with patterns := marked })

/-- Prepares the scope for its recommendation query. What was done before a fault stays. -/
def prepare (s : Scope) : Except TermError Unit × Scope :=
  match s.trim with
  | .error e => (.error e, s)
  | .ok trimmed => trimmed.expand.markLeaves

end Scope

end PointOfFocus
