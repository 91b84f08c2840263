import PointOfFocus.Endpoint.Result

/-!
# Inquiries

An inquiry asks an endpoint one query after the other, each of which may depend on the results before, and ends with
an answer. It says which queries are sent, not how: it can be run against any function that gives results, and it can
be sent over the network by a client.
-/

namespace PointOfFocus.Endpoint

open PointOfFocus.Data (Value ShapeError)

/-- A dialogue with an endpoint. -/
inductive Inquiry (α : Type) where
  /-- The dialogue is over. -/
  | done (answer : α)
  /-- A query, and what follows from its result. -/
  | ask (query : String) (next : Result → Inquiry α)

/-- Runs an inquiry against an endpoint that may take all queries so far into account: the queries that were sent, in
order, and the answer. -/
def Inquiry.run {α : Type} (endpoint : List String → Result) : Inquiry α → List String → List String × α
  | .done answer, sent => (sent, answer)
  | .ask query next, sent => (next (endpoint (sent ++ [query]))).run endpoint (sent ++ [query])

/-- How an endpoint is reached. -/
structure Client where
  /-- The address of the endpoint. -/
  url : String
  /-- For how many seconds a response is awaited. -/
  timeout : Value := .float (Number.Binary64.ofInt 30)
  /-- The name of the method. -/
  method : String := "POST"

/-- The request for a query. -/
def Client.request (c : Client) (query : String) : Request where
  method := .ofText c.method
  url := c.url
  timeout := c.timeout
  query := query

end PointOfFocus.Endpoint
