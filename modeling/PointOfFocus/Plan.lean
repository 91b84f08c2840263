import PointOfFocus.Endpoint.Inquiry

/-!
# Plans

A plan says what a program asks of the world, step by step, and what it makes of the answers: it sends requests, looks
up paths, and reads the standard input. Plans are data, so that what a command does can be stated without a network or
a disk, and the outermost layer only has to carry out single steps.
-/

namespace PointOfFocus

open PointOfFocus.Data (ShapeError)
open PointOfFocus.Endpoint

/-- What is found at a path. -/
inductive Entry where
  /-- Nothing. -/
  | missing
  /-- A directory. -/
  | directory
  /-- A file with a text. -/
  | file (text : String)

/-- What remains to be done for an answer. -/
inductive Plan (α : Type) where
  /-- Nothing remains to be done. -/
  | done (answer : α)
  /-- A request, and what follows from the reply. -/
  | send (request : Request) (next : Reply → Plan α)
  /-- A path, and what follows from what is found there. -/
  | lookUp (path : String) (next : Entry → Plan α)
  /-- The standard input, and what follows from it. -/
  | readInput (next : String → Plan α)

namespace Plan

/-- A plan followed by another one. -/
def andThen {α β : Type} : Plan α → (α → Plan β) → Plan β
  | .done a, f => f a
  | .send request next, f => .send request fun reply => (next reply).andThen f
  | .lookUp path next, f => .lookUp path fun entry => (next entry).andThen f
  | .readInput next, f => .readInput fun text => (next text).andThen f

instance : Monad Plan where
  pure := .done
  bind := andThen

/-- Sends a request. -/
def sending (request : Request) : Plan Reply := .send request .done

/-- Looks up a path. -/
def entryAt (path : String) : Plan Entry := .lookUp path .done

/-- Reads the standard input. -/
def input : Plan String := .readInput .done

/-- A world in which plans are carried out. -/
structure World where
  /-- What is found at a path. -/
  lookUp : String → Entry
  /-- The standard input. -/
  input : String := ""
  /-- The reply to the last of the requests so far. -/
  reply : List Request → Reply

/-- Carries out a plan: the requests that were sent, in order, and the answer. -/
def run {α : Type} (world : World) : Plan α → List Request → List Request × α
  | .done a, sent => (sent, a)
  | .send request next, sent => (next (world.reply (sent ++ [request]))).run world (sent ++ [request])
  | .lookUp path next, sent => (next (world.lookUp path)).run world sent
  | .readInput next, sent => (next world.input).run world sent

end Plan

/-- Sends the queries of an inquiry to the endpoint of a client. -/
def Endpoint.Inquiry.plan {α : Type} (client : Client) : Inquiry α → Plan (Except ShapeError α)
  | .done answer => .done (.ok answer)
  | .ask query next =>
    .send (client.request query) fun reply =>
      match reply.result client.url with
      | .error e => .done (.error e)
      | .ok result => (next result).plan client

end PointOfFocus
