import PointOfFocus.Data.Shape
import PointOfFocus.Rdf.Term

/-!
# Candidates

A candidate is a term that an endpoint found for the point of focus, with the number of times that it was found. It
can be asked for again in the values clause of a further query, unless it is a blank node, whose label means nothing
outside of the result that it came from. A path is found as one text, `<p1> / <p2>`, and is taken apart again.
-/

namespace PointOfFocus.Ranking

open PointOfFocus.Data (Value ShapeError)
open PointOfFocus.Rdf

/-- A term found for the point of focus. -/
structure Candidate where
  /-- The text of the term. -/
  value : String
  /-- How often the term was found. -/
  count : Int := 0
  /-- The kind of the term. -/
  type : String := "uri"
  /-- The language of a literal. -/
  language : Value := .null
  /-- The datatype of a literal. -/
  datatype : Value := .null

/-- Why a candidate cannot be written as a term. -/
inductive CandidateError where
  /-- Blank nodes cannot be written. -/
  | blank (label : String)
  /-- The term cannot be built or written. -/
  | term (cause : TermError)
  /-- The description of the term has the wrong shape. -/
  | shape (cause : ShapeError)
deriving DecidableEq

/-- The wording of the fault. -/
def CandidateError.message : CandidateError → String
  | .blank label => "Blank node '" ++ label ++ "' cannot be written as a SPARQL term."
  | .term cause => cause.message
  | .shape cause => cause.message

/-- The language tag that a value stands for. -/
def languageTag : Value → Except ShapeError String
  | .text tag => .ok tag
  | v => .error (.notText v.typeName)

/-- The datatype IRI that a value stands for. -/
def datatypeIri : Value → Except ShapeError String
  | .text iri => .ok iri
  | .list items => .ok (Value.list items).toText
  | .dict entries => .ok (Value.dict entries).toText
  | v => .error (.noMembers v.typeName)

namespace Candidate

/-- Whether the candidate can be asked for again. -/
def isBindable (c : Candidate) : Bool := c.type ≠ "bnode"

/-- The candidate as a literal. -/
def literal (c : Candidate) : Except CandidateError Literal := do
  if c.language.isTrue then
    let tag ← (languageTag c.language).mapError .shape
    (Literal.build c.value (some tag) none).mapError .term
  else if c.datatype.isTrue then
    let iri ← (datatypeIri c.datatype).mapError .shape
    return .typed c.value iri
  else
    return .plain c.value

/-- The candidate written as a term. -/
def render (c : Candidate) : Except CandidateError String :=
  if c.type = "uri" then (Term.iri c.value).render.mapError .term
  else if !c.isBindable then .error (.blank c.value)
  else c.literal.map Literal.render

/-- Splits a text at every ` / `. -/
def splitHops : List Char → List (List Char)
  | [] => [[]]
  | ' ' :: '/' :: ' ' :: cs => [] :: splitHops cs
  | c :: cs =>
    match splitHops cs with
    | [] => [[c]]
    | hop :: hops => (c :: hop) :: hops

/-- The text between angle brackets. -/
def unbracketed? (cs : List Char) : Option (List Char) :=
  match cs with
  | '<' :: rest => if rest.getLast? = some '>' then some rest.dropLast else none
  | _ => none

/-- The candidate as a row of a values clause, if it can be asked for again: one term, or for a path as many IRIs as
the path has hops. -/
def valuesRow (pathLength : Int) (c : Candidate) : Except CandidateError (Option String) :=
  if !c.isBindable then .ok none
  else if pathLength = 0 then c.render.map some
  else
    let hops := splitHops c.value.toList
    match hops.mapM unbracketed? with
    | none => .ok none
    | some iris =>
      if (hops.length : Int) ≠ pathLength then .ok none
      else do
        let terms ← (iris.mapM fun iri => (Term.iri (String.ofList iri)).render).mapError .term
        return some ("(" ++ " ".intercalate terms ++ ")")

end Candidate

end PointOfFocus.Ranking
