import PointOfFocus.Scope.Basic

/-!
# The part of a query around the point of focus

Only the patterns connected to the point of focus, directly or through other patterns, matter for a
recommendation. They are found by letting the set of reached keys grow: a pattern that touches the set adds its
keys. A pass over the patterns that adds nothing ends the search, so as many passes as there are patterns always
suffice.
-/

namespace PointOfFocus

open PointOfFocus.Rdf

/-- The whole numbers from 1 to the given one. -/
def countTo (n : Int) : List Int :=
  (List.range n.toNat).map fun (i : Nat) => Int.ofNat (i + 1)

/-- The reached keys together with the keys of a pattern that touches them. -/
def absorb (reached keys : List String) : List String :=
  if touches keys reached then reached ++ keys.filter (!reached.contains ·) else reached

/-- The reached keys after at most the given number of passes over the patterns' keys. -/
def saturate (keys : List (List String)) : Nat → List String → List String
  | 0, reached => reached
  | passes + 1, reached =>
    let next := keys.foldl absorb reached
    if next.length = reached.length then reached else saturate keys passes next

namespace Scope

/-- The keys of the point of focus: its variable and, once a path has been written out, the path's hops. -/
def focusKeys (s : Scope) : List String :=
  let hops := if s.projection = defaultProjection then [] else countTo s.pathLength
  ("?POF") :: hops.map fun i => "?POF" ++ Number.integerText i

/-- The scope with only the patterns connected to the point of focus. -/
def trim (s : Scope) : Except TermError Scope := do
  let keys ← s.patterns.mapM Pattern.keys
  let reached := saturate keys (keys.length + 1) s.focusKeys
  let kept := (s.patterns.zip keys).filter fun entry => touches entry.2 reached
  return { s with patterns := kept.map (·.1) }

/-- The subject that the point of focus hangs off: that of the first pattern with a key of the focus. -/
def focusSubject (s : Scope) : Except TermError (Option String) :=
  find s.patterns
where
  /-- Looks for the first pattern with a key of the focus. -/
  find : List Pattern → Except TermError (Option String)
    | [] => .ok none
    | p :: ps => do
      if touches (← p.keys) s.focusKeys then return some (← p.subject.render) else find ps

end Scope

end PointOfFocus
