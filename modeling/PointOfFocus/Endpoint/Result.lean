import PointOfFocus.Data.Json.Reader
import PointOfFocus.Data.Shape
import PointOfFocus.Endpoint.Exchange

/-!
# Query results

The result of a query is a table of bindings, or the failure to get one. A response counts as a failure if its status
says so, if its body is not JSON, or if the body is not a JSON object. Within the object, what is no binding is left
out, and a bound value without a description is described as a literal.
-/

namespace PointOfFocus.Endpoint

open PointOfFocus.Data
open PointOfFocus.Number (Binary64)

/-- The descriptions of the values that one solution gives to variables. -/
abbrev Binding := List (String × Value)

/-- A table of bindings. -/
structure Table where
  /-- The names of the variables. -/
  columns : List String := []
  /-- The solutions in order. -/
  bindings : List Binding := []

/-- The described value. -/
def described (description : Value) : Value :=
  (description.get? "value").getD .null

/-- The values that each solution gives to variables. -/
def Table.rows (t : Table) : List (List (String × Value)) :=
  t.bindings.map fun binding => binding.map fun entry => (entry.1, described entry.2)

/-- Describes a bound value, unless it comes with a description. -/
def describe (bound : Value) : Value :=
  match bound.get? "value" with
  | some _ => bound
  | none => .dict [("type", .text "literal"), ("value", bound)]

/-- The binding that a value of the list of bindings stands for, if it is a mapping. -/
def binding? : Value → Option Binding
  | .dict entries => some (entries.map fun entry => (entry.1, describe entry.2))
  | _ => none

/-- The items of a value that should be a list, if it is one. -/
def itemsOf : Option Value → List Value
  | some (.list items) => items
  | _ => []

/-- The table that a result object holds. -/
def Table.ofEntries (entries : List (String × Value)) : Except ShapeError Table := do
  let head := (valueOf? entries "head").getD (.dict [])
  let columns ← head.lookUp "vars"
  let results := (valueOf? entries "results").getD (.dict [])
  let bindings ← results.lookUp "bindings"
  return { columns := (itemsOf columns).map Value.toText, bindings := (itemsOf bindings).filterMap binding? }

/-- Why there is no table. -/
inductive Failure where
  /-- The status code of the response reports an error. -/
  | status (code : Nat) (body : String)
  /-- The body is not JSON. -/
  | notJson (body : String) (cause : Json.ReadError)
  /-- The body is no JSON object. -/
  | notObject
  /-- The request failed. -/
  | network (reason : String)

/-- How many characters of a body a message shows. -/
def shownLength : Nat := 500

/-- The wording of the failure. -/
def Failure.message : Failure → String
  | .status code body => "HTTP " ++ code.repr ++ ": " ++ String.ofList (body.toList.take shownLength)
  | .notJson body cause => "Failed to decode JSON from SPARQL endpoint: " ++ cause.message body.toList
  | .notObject => "Unexpected JSON structure from SPARQL endpoint."
  | .network reason => reason

/-- The result of a query. -/
structure Result where
  /-- The address of the endpoint. -/
  url : String
  /-- The status code of the response, if there was one. -/
  statusCode : Option Nat
  /-- The time that the exchange took, in milliseconds. -/
  elapsed : Binary64
  /-- The table, or why there is none. -/
  outcome : Except Failure Table

/-- A failed query to an endpoint. -/
structure Fault where
  /-- The address of the endpoint. -/
  url : String
  /-- The status code of the response, if there was one. -/
  statusCode : Option Nat
  /-- Why there is no table. -/
  failure : Failure

/-- The wording of the fault. -/
def Fault.message (f : Fault) : String :=
  "SPARQL query against '" ++ f.url ++ "' failed: " ++ f.failure.message

/-- The table of a result, which a failure lacks. -/
def Result.table (r : Result) : Except Fault Table :=
  r.outcome.mapError fun failure => { url := r.url, statusCode := r.statusCode, failure }

/-- The failure of a result, if it is one. -/
def Result.failure? (r : Result) : Option Failure :=
  match r.outcome with
  | .ok _ => none
  | .error failure => some failure

/-- The table of a result, which is empty for a failure. -/
def Result.contents (r : Result) : Table :=
  match r.outcome with
  | .ok table => table
  | .error _ => {}

/-- Whether a status code reports an error. -/
def isErrorStatus (code : Nat) : Bool := 400 ≤ code && code < 600

/-- The outcome of a response. -/
def Response.outcome : Response → Except ShapeError (Except Failure Table)
  | .failed reason => .ok (.error (.network reason))
  | .received code body =>
    if isErrorStatus code then .ok (.error (.status code body))
    else
      match Json.read body.toList with
      | .error cause => .ok (.error (.notJson body cause))
      | .ok (.dict entries) => (Table.ofEntries entries).map .ok
      | .ok _ => .ok (.error .notObject)

/-- The status code of a response. -/
def Response.statusCode : Response → Option Nat
  | .received code _ => some code
  | .failed _ => none

/-- The result that a reply from an address brings. -/
def Reply.result (url : String) (r : Reply) : Except ShapeError Result := do
  return { url, statusCode := r.response.statusCode, elapsed := r.elapsed, outcome := ← r.response.outcome }

end PointOfFocus.Endpoint
