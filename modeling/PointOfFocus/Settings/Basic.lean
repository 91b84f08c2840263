import PointOfFocus.Data.Yaml.Scalar
import PointOfFocus.Settings.Location
import PointOfFocus.Text.UpperCase

/-!
# Settings

The settings say which endpoints there are, how they are asked, and how recommendations are made. They are read from
a value with three sections, each of which may be missing. A section that is wrong is refused with a message that
names what is wrong; a client or recommendation section that is no mapping counts as missing.
-/

namespace PointOfFocus.Settings

open PointOfFocus.Data
open PointOfFocus.Number (Binary64)
open PointOfFocus.Text (quoted upper)

/-- An endpoint. -/
structure EndpointEntry where
  /-- The name by which it is chosen. -/
  id : String
  /-- The name that is shown. -/
  label : String
  /-- The address. -/
  url : String
  /-- The graph that is asked, if it is not the default graph. -/
  graph : Option String := none
deriving DecidableEq

/-- How endpoints are asked. -/
structure ClientSettings where
  /-- For how many seconds a response is awaited. -/
  timeout : Binary64 := .ofInt 30
  /-- The method, `GET` or `POST`. -/
  method : String := "POST"

/-- How recommendations are made. -/
structure RecommendationSettings where
  /-- Where the template is, if it is not the one at hand. -/
  template : Option Location := none
  /-- How many candidates are measured. -/
  top : Int := 10

/-- What is wrong with settings. -/
inductive Invalid where
  /-- There is no file at the path. -/
  | missing (path : String)
  /-- The file is not YAML. -/
  | malformed (path : String)
  /-- The file holds no mapping. -/
  | notMapping (path : String)
  /-- The endpoints are no list. -/
  | endpointsNotList
  /-- An endpoint is no mapping. -/
  | endpointNotMapping (index : Nat)
  /-- An endpoint lacks an entry. -/
  | endpointLacks (index : Nat) (key : String)
  /-- An endpoint has an empty address. -/
  | emptyUrl (id : String)
  /-- The method is not one of two. -/
  | badMethod (name : String)
  /-- The time to wait is no number. -/
  | badTimeout (cause : Value.NumberError)
  /-- The number of candidates is no integer. -/
  | badTop (cause : Value.NumberError)
  /-- The number of candidates is not positive. -/
  | topTooSmall
  /-- There are no endpoints. -/
  | noEndpoints
  /-- No endpoint has the name. -/
  | unknownEndpoint (id : String)
  /-- There is no template at the path. -/
  | templateMissing (path : String)

/-- The wording of the fault. -/
def Invalid.message : Invalid → String
  | .missing path =>
    "sparqled config file not found at '" ++ path ++ "'. Set SPARQLED_CONFIG_PATH to a valid YAML config."
  | .malformed path => "Failed to parse config YAML at '" ++ path ++ "'"
  | .notMapping path => "Config at '" ++ path ++ "' must be a YAML mapping/object."
  | .endpointsNotList => "'endpoints' must be a list."
  | .endpointNotMapping index => "Endpoint #" ++ index.repr ++ " in 'endpoints' must be a mapping."
  | .endpointLacks index key =>
    "Endpoint #" ++ index.repr ++ " in 'endpoints' is missing required key: " ++ quoted key ++ "."
  | .emptyUrl id => "Endpoint '" ++ id ++ "' has empty sparql_url."
  | .badMethod name => "'client.method' must be GET or POST, got '" ++ name ++ "'."
  | .badTimeout cause => "'client.timeout_s' must be a number: " ++ cause.message
  | .badTop cause => "'recommendation.top_k' must be an integer: " ++ cause.message
  | .topTooSmall => "'recommendation.top_k' must be at least 1."
  | .noEndpoints => "No SPARQL endpoints available from configuration."
  | .unknownEndpoint id => "Unknown endpoint '" ++ id ++ "'."
  | .templateMissing path => "Recommendation template not found at '" ++ path ++ "'."

/-- Why settings are not there. -/
inductive Fault where
  /-- The settings are wrong. -/
  | invalid (cause : Invalid)
  /-- A number lies outside of the range of its kind, or has too many digits to be written. -/
  | outOfRange (cause : Value.NumberError)
  /-- A home directory is not found. -/
  | home (cause : HomeFault)
  /-- A directory stands in the place of a file. -/
  | directory (path : String)
  /-- There is no file. -/
  | noFile (path : String)
  /-- A scalar of the file has no value. -/
  | unreadable (cause : Yaml.ReadError)

/-! ### Sections -/

/-- The text of a value. -/
def writtenText (v : Value) : Except Fault String := v.write.mapError .outOfRange

/-- The text of a value that counts as true. -/
def trueText (v : Value) : Except Fault (Option String) :=
  if v.isTrue then (writtenText v).map some else .ok none

/-- Reads an endpoint, which has the given place in the list. -/
def endpointEntry (index : Nat) (v : Value) : Except Fault EndpointEntry :=
  match v.entries? with
  | some entries => do
    let some id := valueOf? entries "id" | throw (.invalid (.endpointLacks index "id"))
    let id ← writtenText id
    let label ← trueText ((valueOf? entries "label").getD .null)
    let some url := valueOf? entries "sparql_url" | throw (.invalid (.endpointLacks index "sparql_url"))
    let url ← writtenText url
    if url = "" then throw (.invalid (.emptyUrl id))
    let graph ← trueText ((valueOf? entries "graph").getD .null)
    return { id, label := label.getD id, url, graph }
  | none => .error (.invalid (.endpointNotMapping index))

/-- Reads endpoints, the first of which has the given place in the list. -/
def endpointEntries (index : Nat) : List Value → Except Fault (List EndpointEntry)
  | [] => .ok []
  | v :: vs => do
    let first ← endpointEntry index v
    return first :: (← endpointEntries (index + 1) vs)

/-- Reads the section on endpoints. -/
def endpointsSection : Value → Except Fault (List EndpointEntry)
  | .null => .ok []
  | .list items => endpointEntries 0 items
  | _ => .error (.invalid .endpointsNotList)

/-- Tells a number out of range from a value that is no number. -/
def Fault.ofNumber (invalid : Value.NumberError → Invalid) (cause : Value.NumberError) : Fault :=
  if cause.isOverflow then .outOfRange cause else .invalid (invalid cause)

/-- Reads the section on the client. -/
def clientSection (v : Value) : Except Fault ClientSettings :=
  match v.entries? with
  | some entries => do
    let method := upper (← writtenText ((valueOf? entries "method").getD (.text "POST")))
    if method ≠ "GET" && method ≠ "POST" then throw (.invalid (.badMethod method))
    match valueOf? entries "timeout_s" with
    | none => return { method }
    | some v => return { method, timeout := ← v.toFloat.mapError (.ofNumber .badTimeout) }
  | none => .ok {}

/-- The location of a template that is given relative to a directory. -/
def templateLocation (homes : Homes) (base : Location) (v : Value) : Except Fault (Option Location) := do
  match ← trueText v with
  | none => return none
  | some path => return some (base.join (← ((Location.read path).expandHome homes).mapError .home))

/-- Reads the section on recommendations; locations in it are relative to a directory. -/
def recommendationSection (homes : Homes) (base : Location) (v : Value) : Except Fault RecommendationSettings :=
  match v.entries? with
  | some entries => do
    let template ← templateLocation homes base ((valueOf? entries "template_path").getD .null)
    let top ← ((valueOf? entries "top_k").getD (.int 10)).toInteger.mapError (.ofNumber .badTop)
    if top < 1 then throw (.invalid .topTooSmall)
    return { template, top }
  | none => .ok {}

end PointOfFocus.Settings
