import PointOfFocus.CommandLine.Arguments

/-!
# The commands and their help

The program has two commands, and options of its own before the name of the command. For each of the three there is a
list of options, a line on how it is used, and a page of help.
-/

namespace PointOfFocus.CommandLine

/-- What arguments belong to: the program, or one of its commands. -/
inductive Level where
  /-- The program. -/
  | program
  /-- The command that prints the recommendation query. -/
  | complete
  /-- The command that measures recommendations. -/
  | measure
deriving DecidableEq

namespace Level

/-- How the program or the command is called. -/
def path : Level → String
  | .program => "cli"
  | .complete => "cli complete"
  | .measure => "cli measure"

/-- The line on how the program or the command is used. -/
def usage (level : Level) : String :=
  "Usage: " ++ level.path
    ++ (if level = .program then " [OPTIONS] COMMAND [ARGS]..." else " [OPTIONS] QUERY_FILE") ++ "\n"

/-- The line that points to the help. -/
def hint (level : Level) : String :=
  "Try '" ++ level.path ++ " --help' for help.\n"

/-- The options. -/
def options : Level → List OptionSpec
  | .program => [⟨"--verbose", .flag⟩, ⟨"--config", .file⟩, ⟨"--help", .flag⟩]
  | .complete =>
    [⟨"--template", .file⟩, ⟨"--check", .flag⟩, ⟨"--execute", .flag⟩, ⟨"--endpoint", .text⟩,
      ⟨"--limit", .number 1 10000⟩, ⟨"--help", .flag⟩]
  | .measure =>
    [⟨"--endpoint", .text⟩, ⟨"--graph", .text⟩, ⟨"--template", .file⟩, ⟨"--top-k", .number 1 1000⟩,
      ⟨"--help", .flag⟩]

/-- The lines of the help below the line on usage. -/
def helpLines : Level → List String
  | .program =>
    ["",
      "  Point-Of-Focus autocompletion for SPARQL queries.",
      "",
      "Options:",
      "  --verbose      Enable verbose logging.",
      "  --config FILE  YAML configuration file (defaults to $SPARQLED_CONFIG_PATH or",
      "                 ./sparqled.yaml).",
      "  --help         Show this message and exit.",
      "",
      "Commands:",
      "  complete  Print the recommendation type and query for QUERY_FILE ('-' for...",
      "  measure   Rank the recommendations for QUERY_FILE and report their..."]
  | .complete =>
    ["",
      "  Print the recommendation type and query for QUERY_FILE ('-' for stdin).",
      "",
      "Options:",
      "  --template FILE        Jinja2 template used to render the recommendation",
      "                         query.",
      "  --check                Validate the recommendation query with rdflib.",
      "  --execute              Run the recommendation query on the endpoint.",
      "  --endpoint TEXT        Endpoint id or URL (default: first configured).",
      "  --limit INTEGER RANGE  Override the LIMIT of the query.  [1<=x<=10000]",
      "  --help                 Show this message and exit."]
  | .measure =>
    ["",
      "  Rank the recommendations for QUERY_FILE and report their popularity.",
      "",
      "Options:",
      "  --endpoint TEXT        Endpoint id or URL (default: first configured).",
      "  --graph TEXT           Graph IRI used in FROM clauses (default: the endpoint's",
      "                         graph).",
      "  --template FILE        Jinja2 template for the recommendation query; it must",
      "                         project ?POF and ?count.",
      "  --top-k INTEGER RANGE  Number of candidates to measure.  [1<=x<=1000]",
      "  --help                 Show this message and exit."]

/-- The page of help. -/
def help (level : Level) : String :=
  level.usage ++ String.join (level.helpLines.map (· ++ "\n"))

/-- What is printed about a fault in the arguments. -/
def complaint (level : Level) (cause : UsageError) : String :=
  (if cause.showsUsage then level.usage ++ level.hint ++ "\n" else "") ++ "Error: " ++ cause.message ++ "\n"

end Level

end PointOfFocus.CommandLine
