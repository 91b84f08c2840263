import PointOfFocus.Endpoint.Inquiry
import PointOfFocus.Error

/-!
# Measuring popularity

The recommendations for a query are counted by an endpoint and ranked; then the endpoint counts the best of them
again, without the rest of the query. These second counts are the popularity of the recommendations.
-/

namespace PointOfFocus.Ranking

open PointOfFocus.Data (Value)
open PointOfFocus.Endpoint
open PointOfFocus.Number (Binary64)

/-- What was measured. -/
structure Report where
  /-- The best candidates. -/
  candidates : List Candidate
  /-- How often each candidate occurs at all. -/
  popularity : List Int
  /-- The least popularity. -/
  least : Int
  /-- The greatest popularity. -/
  greatest : Int
  /-- The mean popularity. -/
  mean : Binary64
  /-- How many milliseconds the first query took. -/
  elapsed : Binary64
  /-- The queries that were sent. -/
  queries : List String

/-- Reads a query, prepares its scope, and fills a template with it. -/
def prepared (query : String) (template : Except Template.Fault Template) (context : List (String × Value)) :
    Except Error (String × Scope) := do
  let template ← template.mapError .template
  let scope ← (Query.parse query.toList).mapError (.query query.toList)
  let (text, scope) := scope.recommendationQuery template context
  return (← text.mapError .render, scope)

/-- The values clause rows of the candidates that can be asked for again. -/
def valueRows (pathLength : Int) (candidates : List Candidate) : Except Error (List String) := do
  return (← candidates.mapM fun c => (c.valuesRow pathLength).mapError .candidate).filterMap id

/-- The report on popularity counts that are not empty. -/
def Report.ofCounts (candidates : List Candidate) (elapsed : Binary64) (queries : List String) (first : Int)
    (others : List Int) : Except Error Report :=
  let total := others.foldl (· + ·) first
  match Binary64.ofQuotient total (others.length + 1) with
  | .infinite _ => .error .meanOverflow
  | mean =>
    .ok { candidates, popularity := first :: others, least := others.foldl min first,
          greatest := others.foldl max first, mean, elapsed, queries }

/-- What the first result leads to: the best candidates and the popularity query. -/
def secondQuery (query : String) (graph : Value) (template : Except Template.Fault Template) (top pathLength : Int)
    (result : Result) : Except Error (List Candidate × String) := do
  let table ← result.table.mapError .endpoint
  let best ← (rank (table.bindings.map .dict) top).mapError .ofRank
  if best.isEmpty then throw (.degenerate .noCandidates)
  let rows ← valueRows pathLength best
  if rows.isEmpty then throw (.degenerate .noneBindable)
  let (text, _) ← prepared query template [("graph", graph), ("values", .list (rows.map .text))]
  return (best, text)

/-- What the second result leads to. -/
def report (candidates : List Candidate) (elapsed : Binary64) (queries : List String) (result : Result) :
    Except Error Report := do
  let table ← result.table.mapError .endpoint
  match ← (table.bindings.mapM fun b => countOf (.dict b)).mapError .number with
  | [] => throw (.degenerate .noCounts)
  | first :: others => Report.ofCounts candidates elapsed queries first others

/-- Ranks the recommendations for a query and measures their popularity. -/
def measure (query : String) (graph : Value) (template popularityTemplate : Except Template.Fault Template)
    (top : Int) : Inquiry (Except Error Report) :=
  match prepared query template [("graph", graph)] with
  | .error e => .done (.error e)
  | .ok (counting, scope) =>
    .ask counting fun first =>
      match secondQuery query graph popularityTemplate top scope.pathLength first with
      | .error e => .done (.error e)
      | .ok (candidates, popularity) =>
        .ask popularity fun second => .done (report candidates first.elapsed [counting, popularity] second)

end PointOfFocus.Ranking
