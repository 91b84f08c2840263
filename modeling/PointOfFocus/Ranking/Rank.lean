import PointOfFocus.Ranking.Candidate

/-!
# Ranking

The candidates of a list of bindings are the distinct texts bound to the point of focus. Each counts as often as all
its bindings together say, and the ranking goes by decreasing count, with candidates of equal count in the order in
which they were first seen.
-/

namespace PointOfFocus.Ranking

open PointOfFocus.Data

/-- Why bindings cannot be ranked. -/
inductive RankError where
  /-- A binding has the wrong shape. -/
  | shape (cause : ShapeError)
  /-- A count is no finite number. -/
  | count (cause : Value.NumberError)

/-- The count of a binding. A count that is missing or no number is zero. -/
def countOf (binding : Value) : Except Value.NumberError Int :=
  match (binding.get? "count").bind (·.get? "value") with
  | none => .ok 0
  | some v =>
    match v.toInteger with
    | .ok n => .ok n
    | .error e => if e.isOverflow then .error e else .ok 0

/-- What a binding says about the point of focus: the bound text and its description. -/
def focusOf (binding : Value) : Except ShapeError (Option (String × Value)) := do
  match ← binding.lookUp "POF" with
  | none => return none
  | some description =>
    if !description.isTrue then return none
    else
      match ← description.member "value" with
      | none => return none
      | some v => return some (v.toText, description)

/-- A candidate that has not been counted yet. -/
def Candidate.ofDescription (value : String) (description : Value) : Candidate where
  value := value
  type := ((description.get? "type").getD (.text "uri")).toText
  language := (description.get? "xml:lang").getD .null
  datatype := (description.get? "datatype").getD .null

/-- Counts a text: at the candidate with this text if there is one, else at a new one. -/
def countIn (candidates : List Candidate) (value : String) (description : Value) (n : Int) : List Candidate :=
  if candidates.any (·.value = value) then
    candidates.map fun c => if c.value = value then { c with count := c.count + n } else c
  else candidates ++ [{ Candidate.ofDescription value description with count := n }]

/-- Counts a binding. -/
def tally (candidates : List Candidate) (binding : Value) : Except RankError (List Candidate) := do
  match ← (focusOf binding).mapError .shape with
  | none => return candidates
  | some (value, description) =>
    return countIn candidates value description (← (countOf binding).mapError .count)

/-- The candidates by decreasing count. -/
def byCount (candidates : List Candidate) : List Candidate :=
  candidates.mergeSort fun a b => b.count ≤ a.count

/-- The first items of a list; a negative number says how many are left out at the end. -/
def firstItems {α : Type} (n : Int) (items : List α) : List α :=
  items.take (if n < 0 then items.length + n else n).toNat

/-- The best candidates of a list of bindings. -/
def rank (bindings : List Value) (top : Int) : Except RankError (List Candidate) := do
  return firstItems top (byCount (← bindings.foldlM tally []))

/-- How many candidates are measured if nothing else is asked for. -/
def defaultTop : Int := 10

end PointOfFocus.Ranking
