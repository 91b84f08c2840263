import PointOfFocus.Data.Value
import PointOfFocus.Text.UpperCase

/-!
# Requests and replies

A query is sent to an endpoint in one request. What comes back is a response with a status and a body, or the word
of the network that there is none, and the time that it took.
-/

namespace PointOfFocus.Endpoint

open PointOfFocus.Data (Value)
open PointOfFocus.Number (Binary64)

/-- How a query is sent. -/
inductive Method where
  /-- As a parameter of the address. -/
  | get
  /-- As the body of the request. -/
  | post
deriving DecidableEq

/-- The name of the method. -/
def Method.text : Method → String
  | .get => "GET"
  | .post => "POST"

/-- The method of a name in any case; every name but `GET` stands for `POST`. -/
def Method.ofText (name : String) : Method :=
  if Text.upper name = "GET" then .get else .post

/-- A request to an endpoint. -/
structure Request where
  /-- How the query is sent. -/
  method : Method
  /-- The address of the endpoint. -/
  url : String
  /-- For how many seconds a response is awaited. -/
  timeout : Value
  /-- The query. -/
  query : String

/-- The headers of a request, by name. -/
def Request.headers (r : Request) : List (String × String) :=
  let accept := ("Accept", "application/sparql-results+json")
  match r.method with
  | .get => [accept]
  | .post => [accept, ("Content-Type", "application/sparql-query")]

/-- What comes back from an endpoint. -/
inductive Response where
  /-- A response with a status code and a body. -/
  | received (status : Nat) (body : String)
  /-- The request failed, for the given reason. -/
  | failed (reason : String)

/-- A response and how many milliseconds it took. -/
structure Reply where
  /-- What came back. -/
  response : Response
  /-- The time that it took, in milliseconds. -/
  elapsed : Binary64

end PointOfFocus.Endpoint
