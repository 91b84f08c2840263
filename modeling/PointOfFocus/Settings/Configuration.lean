import PointOfFocus.Data.Yaml.Reader
import PointOfFocus.Endpoint.Inquiry
import PointOfFocus.Plan
import PointOfFocus.Settings.Basic
import PointOfFocus.Text.Lines

/-!
# Configurations

A configuration is what the settings file says. The file is the one that is asked for, else the one that the
environment names, else the default one in the working directory, which alone may be missing.
-/

namespace PointOfFocus.Settings

open PointOfFocus.Data
open PointOfFocus.Endpoint (Client)

/-- The settings with the names of the sections that the file has. -/
structure Configuration where
  /-- The names of all sections of the file. -/
  sections : List String := []
  /-- The endpoints. -/
  endpoints : List EndpointEntry := []
  /-- How endpoints are asked. -/
  client : ClientSettings := {}
  /-- How recommendations are made. -/
  recommendation : RecommendationSettings := {}

/-- Where the program runs. -/
structure Environment where
  /-- The working directory. -/
  directory : Location
  /-- The home directories. -/
  homes : Homes
  /-- The settings file that the environment names. -/
  configured : Option String := none

/-- The name of the default settings file. -/
def defaultName : String := "sparqled.yaml"

/-- The file that settings are read from. -/
structure Source where
  /-- The location of the file. -/
  location : Location
  /-- Whether the file must be there. -/
  required : Bool := true
deriving DecidableEq

namespace Environment

/-- The location that a text writes, which may start in a home directory. -/
def locate (e : Environment) (path : String) : Except Fault Location :=
  ((Location.read path).expandHome e.homes).mapError .home

/-- The file that settings are read from, given the path that is asked for. -/
def source (e : Environment) (path : Option String) : Except Fault Source :=
  match path, e.configured with
  | some path, _ => (e.locate path).map ({ location := · })
  | none, some path =>
    if path = "" then .ok { location := e.directory.join (.read defaultName), required := false }
    else (e.locate path).map ({ location := · })
  | none, none => .ok { location := e.directory.join (.read defaultName), required := false }

end Environment

/-- The configuration of the sections of a file in the given directory, given the names of all of them and those that
have a text as their name. -/
def Configuration.ofEntries (homes : Homes) (base : Location) (sections : List String) (entries : List (String × Value)) :
    Except Fault Configuration := do
  let part := fun name => (valueOf? entries name).getD .null
  let endpoints ← endpointsSection (part "endpoints")
  let client ← clientSection (part "client")
  let recommendation ← recommendationSection homes base (part "recommendation")
  return { sections, endpoints, client, recommendation }

/-- The configuration that is found at a source. A file without content is a mapping without entries. -/
def Source.configuration (homes : Homes) (s : Source) : Entry → Except Fault Configuration
  | .missing => if s.required then .error (.invalid (.missing s.location.text)) else .ok {}
  | .directory => .error (.directory s.location.text)
  | .file content =>
    match Yaml.read (Text.uniformLines content.toList) with
    | .error .malformed => .error (.invalid (.malformed s.location.text))
    | .error cause => .error (.unreadable cause)
    | .ok v =>
      match v.entries? with
      | some entries => Configuration.ofEntries homes s.location.parent v.keyTexts entries
      | none => if v.isTrue then .error (.invalid (.notMapping s.location.text)) else .ok {}

namespace Configuration

/-- The endpoint that is used if none is chosen. -/
def defaultEndpoint (c : Configuration) : Except Invalid EndpointEntry :=
  match c.endpoints with
  | [] => .error .noEndpoints
  | e :: _ => .ok e

/-- Whether the text is an address. -/
def isAddress (text : String) : Bool :=
  "http://".toList.isPrefixOf text.toList || "https://".toList.isPrefixOf text.toList

/-- The endpoint that is chosen by its name or its address. -/
def endpoint (c : Configuration) : Option String → Except Invalid EndpointEntry
  | none => c.defaultEndpoint
  | some id =>
    if isAddress id then .ok { id, label := id, url := id }
    else
      match c.endpoints.find? (·.id = id) with
      | some e => .ok e
      | none => .error (.unknownEndpoint id)

/-- How an endpoint is reached under this configuration. -/
def clientFor (c : Configuration) (e : EndpointEntry) : Client where
  url := e.url
  timeout := .float c.client.timeout
  method := c.client.method

end Configuration

end PointOfFocus.Settings
