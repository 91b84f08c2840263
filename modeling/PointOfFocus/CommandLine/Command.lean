import PointOfFocus.CommandLine.Help
import PointOfFocus.Query.Limit
import PointOfFocus.Query.Validity
import PointOfFocus.Ranking.Measure
import PointOfFocus.Settings.Configuration
import PointOfFocus.Text.Terminal

/-!
# The commands

The program first reads its own options and the configuration, then the arguments of the command, and then does what
the command says. What was printed before a fault stays printed. A fault of the arguments is told with the usage of
the command, and a fault that the user can mend is told as a message; any other fault ends the program as it is.
-/

namespace PointOfFocus.CommandLine

open PointOfFocus.Data (Value)
open PointOfFocus.Endpoint (Client Inquiry)
open PointOfFocus.Number (integerText)
open PointOfFocus.Settings
open PointOfFocus.Text (dropControls feedLines suggestions)

/-- What a run of the program leads to. -/
structure Outcome where
  /-- The exit code. -/
  exitCode : Nat := 0
  /-- What is printed on the standard output. -/
  stdout : String := ""
  /-- What is printed on the standard error output. -/
  stderr : String := ""
  /-- The fault that ended the program. -/
  fault : Option Error := none

/-- Why a command stops before its end. -/
inductive Stop where
  /-- Help was asked for. -/
  | help (level : Level)
  /-- The program was called without arguments. -/
  | noArguments
  /-- The arguments are wrong. -/
  | usage (level : Level) (cause : UsageError)
  /-- Something else is wrong. -/
  | fault (cause : Error)

/-- A command, which prints and can stop. -/
abbrev Command := ExceptT Stop (StateT String Plan)

/-- The outcome with plain texts. -/
def Outcome.plain (o : Outcome) : Outcome :=
  { o with stdout := feedLines (dropControls o.stdout), stderr := feedLines (dropControls o.stderr) }

/-- The outcome of a command. -/
def Outcome.of : Except Stop Unit × String → Outcome
  | (.ok (), stdout) => { stdout }
  | (.error (.help level), stdout) => { stdout := stdout ++ level.help }
  | (.error .noArguments, stdout) => { exitCode := 2, stdout, stderr := Level.help .program }
  | (.error (.usage level cause), stdout) => { exitCode := 2, stdout, stderr := level.complaint cause }
  | (.error (.fault cause), stdout) =>
    if cause.isReported then { exitCode := 1, stdout, stderr := "Error: " ++ cause.message ++ "\n" }
    else { exitCode := 1, stdout, fault := some cause }

/-- Does a step of a plan. -/
def doing {α : Type} (plan : Plan α) : Command α :=
  ExceptT.lift (StateT.lift plan)

/-- Prints a line. -/
def printLine (line : String) : Command Unit :=
  modify fun printed => printed ++ line ++ "\n"

/-- Goes on with a result or stops with its fault. -/
def orStop {ε α : Type} (wrap : ε → Stop) : Except ε α → Command α
  | .ok a => pure a
  | .error e => throw (wrap e)

/-- Goes on with a result or stops with its fault. -/
def orFault {α : Type} (result : Except Error α) : Command α := orStop .fault result

/-! ### Arguments -/

/-- Checks the value of an option. -/
def checkOption (level : Level) (name value : String) : Command Unit := do
  let form : Option Form := (level.options.find? (·.name = name)).map (·.form)
  match form with
  | some .file =>
    if let .directory ← doing (.entryAt value) then throw (.usage level (.notFile name value))
  | some (.number least greatest) => orStop (.usage level) (checkNumber name value least greatest)
  | _ => pure ()

/-- Checks the values of options, in order. -/
def checkOptions (level : Level) : List (String × String) → Command Unit
  | [] => pure ()
  | (name, value) :: rest => do
    checkOption level name value
    checkOptions level rest

/-- Reads the arguments of the program or of a command and answers a request for help. -/
def arguments (level : Level) (args : List String) : Command Arguments := do
  let found ← orStop (.usage level) (readArguments level.options (level ≠ .program) {} args)
  if found.has "--help" then throw (.help level)
  checkOptions level found.options
  return found

/-- Reads the arguments of a command: its options and the path of the query. -/
def commandArguments (level : Level) (args : List String) : Command (Arguments × String) := do
  let found ← arguments level args
  match found.others with
  | [] => throw (.usage level .missingArgument)
  | [path] => return (found, path)
  | _ :: extra => throw (.usage level (.extraArguments extra))

/-! ### Files -/

/-- A text with uniform line ends. -/
def uniform (text : String) : String := String.ofList (Text.uniformLines text.toList)

/-- Reads the configuration. -/
def configuration (e : Environment) (path : Option String) : Command Configuration := do
  let source ← orFault ((e.source path).mapError .ofSettings)
  let entry ← doing (.entryAt source.location.text)
  orFault ((source.configuration e.homes entry).mapError .ofSettings)

/-- Reads a query from a file, or from the standard input if a dash stands in the place of the path. -/
def readQuery (level : Level) (path : String) : Command String := do
  if path = "-" then return uniform (← doing .input)
  else
    let location := (Location.read path).text
    match ← doing (.entryAt location) with
    | .file text => return uniform text
    | .directory => throw (.fault (.directory location))
    | .missing => throw (.usage level (.missingQuery path))

/-- Reads a template from a file. -/
def readTemplate (e : Environment) (path : String) : Command Template := do
  let location ← orFault ((e.locate path).mapError .ofSettings)
  match ← doing (.entryAt location.text) with
  | .file text => orFault ((Template.compile (uniform text)).mapError .template)
  | .directory => throw (.fault (.directory location.text))
  | .missing => throw (.fault (.settings (.templateMissing location.text)))

/-- The endpoint that is chosen. -/
def chosenEndpoint (c : Configuration) (id : Option String) : Command EndpointEntry :=
  orFault ((c.endpoint id).mapError .settings)

/-- Carries out an inquiry at an endpoint. -/
def inquire {α : Type} (client : Client) (inquiry : Inquiry α) : Command α := do
  orFault ((← doing (inquiry.plan client)).mapError .shape)

/-! ### Commands -/

/-- The recommendation query for a text, and the scope that it was made from. -/
def recommendationFor (template : Template) (text : String) : Except Error (String × Scope) :=
  Ranking.prepared text (.ok template) []

/-- Prints the recommendation query for a query and, if it is asked for, the results of the query. -/
def complete (e : Environment) (c : Configuration) (args : List String) : Command Unit := do
  let (options, path) ← commandArguments .complete args
  let text ← readQuery .complete path
  let template ← match options.value? "--template", c.recommendation.template with
    | some path, _ => readTemplate e path
    | none, some location => readTemplate e location.text
    | none, none => pure .recommendation
  let (query, scope) ← orFault (recommendationFor template text)
  let query ← match options.number? "--limit" with
    | some n => orFault (((Query.setLimit n query.toList).map String.ofList).mapError fun _ => .number .unwritable)
    | none => pure query
  if options.has "--check" && !Query.Validity.isValid query.toList then throw (.fault .notValid)
  printLine ("# recommendation: " ++ scope.recommendation.text)
  printLine query
  if options.has "--execute" then
    let endpoint ← chosenEndpoint c (options.value? "--endpoint")
    let result ← inquire (c.clientFor endpoint) (.ask query .done)
    let table ← orFault (result.table.mapError .endpoint)
    printLine ("# " ++ table.rows.length.repr ++ " result(s) from " ++ endpoint.label ++ " in "
      ++ result.elapsed.fixed 1 ++ " ms")
    for row in table.rows do
      let cell := fun name => ((Data.valueOf? row name).getD (.text "")).toText
      printLine ("\t".intercalate (table.columns.map cell))

/-- The text if it is not empty. -/
def nonempty (text : Option String) : Option String := text.filter (· ≠ "")

/-- What is printed about the popularity of recommendations. -/
def reportLines (r : Ranking.Report) : List String :=
  r.candidates.map (fun candidate => integerText candidate.count ++ "\t" ++ candidate.value)
    ++ ["min=" ++ integerText r.least ++ " max=" ++ integerText r.greatest ++ " mean=" ++ r.mean.fixed 2
      ++ " elapsed=" ++ r.elapsed.fixed 1 ++ "ms"]

/-- Measures the popularity of the recommendations for a query. -/
def measure (e : Environment) (c : Configuration) (args : List String) : Command Unit := do
  let (options, path) ← commandArguments .measure args
  let text ← readQuery .measure path
  let endpoint ← chosenEndpoint c (options.value? "--endpoint")
  let template ← match options.value? "--template" with
    | some path => readTemplate e path
    | none => pure .counting
  let graph := nonempty (options.value? "--graph") <|> endpoint.graph
  let top := (options.number? "--top-k").getD c.recommendation.top
  let inquiry := Ranking.measure text ((graph.map Value.text).getD .null) (.ok template) (.ok .popularity) top
  match ← inquire (c.clientFor endpoint) inquiry with
  | .error (.degenerate _) => printLine "No recommendations"
  | .error cause => throw (.fault cause)
  | .ok report => for line in reportLines report do printLine line

/-- Whether a name looks like an option: it starts with no letter and no number. -/
def looksLikeOption (name : String) : Bool :=
  match name.toList with
  | [] => false
  | c :: _ => c = '_' || !Text.isWord c

/-- Stops for lack of a command. What looks like an option is first read as one of the program's own, together with
what follows it. -/
def noCommand {α : Type} (name : String) (args : List String) : Command α := do
  if looksLikeOption name then let _ ← arguments .program (name :: args)
  throw (.usage .program (.unknownCommand name (suggestions name ["complete", "measure"])))

/-- Runs the program. -/
def program (e : Environment) (args : List String) : Command Unit := do
  if args.isEmpty then throw .noArguments
  let found ← arguments .program args
  match found.others with
  | [] => throw (.usage .program .missingCommand)
  | name :: args =>
    let command ← match name with
      | "complete" => pure complete
      | "measure" => pure measure
      | _ => noCommand name args
    let c ← configuration e (found.value? "--config")
    command e c args

/-- The plan of a run of the program with the given arguments. -/
def plan (e : Environment) (args : List String) : Plan Outcome := do
  return (Outcome.of (← ((program e args).run.run ""))).plain

end PointOfFocus.CommandLine
