import PointOfFocus.Data.Value
import PointOfFocus.Text.Similarity

/-!
# Arguments of a command

Options start with a dash, and some of them take a value, which follows the option or stands after an equals sign. Two
dashes end the options. If an option is given more than once, its last value counts.
-/

namespace PointOfFocus.CommandLine

open PointOfFocus.Data (setEntry valueOf?)
open PointOfFocus.Number (integerText readInteger)
open PointOfFocus.Text (quoted suggestions)

/-- What an option takes. -/
inductive Form where
  /-- No value. -/
  | flag
  /-- A text. -/
  | text
  /-- The path of a file, which need not be there. -/
  | file
  /-- An integer in a range. -/
  | number (least greatest : Int)
deriving DecidableEq

/-- An option of a command. -/
structure OptionSpec where
  /-- The name with its dashes. -/
  name : String
  /-- What the option takes. -/
  form : Form

/-- What is wrong with the arguments of a command. -/
inductive UsageError where
  /-- There is no option of the name; some options have similar names. -/
  | unknownOption (name : String) (similar : List String)
  /-- An option lacks its value. -/
  | needsValue (name : String)
  /-- An option has a value and takes none. -/
  | takesNoValue (name : String)
  /-- The value of an option is no integer. -/
  | notNumber (name value : String)
  /-- The value of an option is outside of its range. -/
  | outOfRange (name : String) (value least greatest : Int)
  /-- The value of an option is a directory. -/
  | notFile (name path : String)
  /-- There is no query file. -/
  | missingArgument
  /-- There are too many arguments. -/
  | extraArguments (arguments : List String)
  /-- There is no command. -/
  | missingCommand
  /-- There is no command of the name; some commands have similar names. -/
  | unknownCommand (name : String) (similar : List String)
  /-- The query file is not there. -/
  | missingQuery (path : String)

/-- The wording of an offer of names in the place of one that there is not. -/
def offer : List String → String
  | [] => ""
  | [name] => " Did you mean " ++ quoted name ++ "?"
  | names => " (Did you mean one of: " ++ ", ".intercalate (names.map quoted) ++ "?)"

/-- The wording of the fault. -/
def UsageError.message : UsageError → String
  | .unknownOption name similar => "No such option " ++ quoted name ++ "." ++ offer similar
  | .needsValue name => "Option " ++ quoted name ++ " requires an argument."
  | .takesNoValue name => "Option " ++ quoted name ++ " does not take a value."
  | .notNumber name value =>
    "Invalid value for '" ++ name ++ "': " ++ quoted value ++ " is not a valid integer range."
  | .outOfRange name value least greatest =>
    "Invalid value for '" ++ name ++ "': " ++ integerText value ++ " is not in the range " ++ integerText least
      ++ "<=x<=" ++ integerText greatest ++ "."
  | .notFile name path => "Invalid value for '" ++ name ++ "': File " ++ quoted path ++ " is a directory."
  | .missingArgument => "Missing argument 'QUERY_FILE'."
  | .extraArguments arguments =>
    "Got unexpected extra argument" ++ (if arguments.length = 1 then "" else "s") ++ " ("
      ++ " ".intercalate arguments ++ ")"
  | .missingCommand => "Missing command."
  | .unknownCommand name similar => "No such command " ++ quoted name ++ "." ++ offer similar
  | .missingQuery path => "Invalid value for QUERY_FILE: Query file '" ++ path ++ "' does not exist."

/-- Whether the message comes with a line on how the command is used. -/
def UsageError.showsUsage : UsageError → Bool
  | .needsValue _ | .takesNoValue _ => false
  | _ => true

/-- The arguments of a command. -/
structure Arguments where
  /-- The options that are given, in order, with their values; those without a value have an empty one. -/
  options : List (String × String) := []
  /-- The other arguments. -/
  others : List String := []

namespace Arguments

/-- The value of an option. -/
def value? (a : Arguments) (name : String) : Option String := valueOf? a.options name

/-- Whether an option is given. -/
def has (a : Arguments) (name : String) : Bool := (a.value? name).isSome

/-- The integer that an option has as its value. -/
def number? (a : Arguments) (name : String) : Option Int :=
  (a.value? name).bind fun value => (readInteger value).toOption

/-- The arguments with one more option. -/
def set (a : Arguments) (name value : String) : Arguments :=
  { a with options := setEntry a.options name value }

end Arguments

/-- Whether an argument is an option; a dash alone is none. -/
def isOption (argument : String) : Bool :=
  match argument.toList with
  | '-' :: _ :: _ => true
  | _ => false

/-- Splits an option into its name and the value after an equals sign. -/
def splitValue (argument : String) : String × Option String :=
  let name := argument.toList.takeWhile (· ≠ '=')
  match argument.toList.drop name.length with
  | [] => (argument, none)
  | _ :: value => (String.ofList name, some (String.ofList value))

/-- The fault of an option that there is not. One with a single dash is named by its first letter, and no option is
like it. -/
def unknownOption (options : List OptionSpec) (argument : String) : UsageError :=
  match argument.toList with
  | '-' :: '-' :: _ =>
    let name := (splitValue argument).1
    .unknownOption name (suggestions name (options.map (·.name)))
  | cs => .unknownOption (String.ofList (cs.take 2)) []

/-- Reads arguments after those that were found before. If options cannot stand after other arguments, the first other
argument ends them. -/
def readArguments (options : List OptionSpec) (mixed : Bool) (found : Arguments) :
    List String → Except UsageError Arguments
  | [] => .ok found
  | argument :: rest =>
    if argument = "--" then .ok { found with others := found.others ++ rest }
    else if isOption argument then
      let (name, given) := splitValue argument
      match options.find? (·.name = name) with
      | none => .error (unknownOption options argument)
      | some option =>
        match option.form, given, rest with
        | .flag, some _, _ => .error (.takesNoValue name)
        | .flag, none, rest => readArguments options mixed (found.set name "") rest
        | _, some value, rest => readArguments options mixed (found.set name value) rest
        | _, none, [] => .error (.needsValue name)
        | _, none, value :: rest => readArguments options mixed (found.set name value) rest
    else if mixed then readArguments options mixed { found with others := found.others ++ [argument] } rest
    else .ok { found with others := found.others ++ argument :: rest }

/-- Checks the value of an option that is an integer. -/
def checkNumber (name value : String) (least greatest : Int) : Except UsageError Unit :=
  match readInteger value with
  | .error _ => .error (.notNumber name value)
  | .ok n => if n < least || greatest < n then .error (.outOfRange name n least greatest) else .ok ()

end PointOfFocus.CommandLine
