import PointOfFocus.Template.Arithmetic
import PointOfFocus.Template.Member
import PointOfFocus.Text.Identifier
import PointOfFocus.Text.LetterCase
import PointOfFocus.Text.Replace

/-!
# Calls

A call hands values to a function, by their places and by names. A function with named parameters takes each argument
once, and fills in what has a value of its own. Of the functions that belong to values those are here that change
nothing.
-/

namespace PointOfFocus.Template

open PointOfFocus.Rdf
open PointOfFocus.Text

/-- The arguments of a call. -/
structure Arguments where
  /-- Those that are told apart by their places. -/
  places : List Datum := []
  /-- Those that have names. -/
  names : List (String × Datum) := []

/-- A parameter: its name, and its value if no argument is given for it. -/
structure Parameter where
  /-- The name. -/
  name : String
  /-- The value without an argument. -/
  standard : Option Datum := none

/-- A function's name and parameters. -/
structure Signature where
  /-- The name. -/
  function : String
  /-- The parameters. -/
  parameters : List Parameter

namespace Signature

/-- The parameters that are not filled by their places. -/
def later (s : Signature) (places : List Datum) : List Parameter := s.parameters.drop places.length

/-- The first argument with a name that the function does not take. -/
def nameFault? (s : Signature) (given : Arguments) : Option Misuse :=
  given.names.findSome? fun (name, _) =>
    if (s.later given.places).any (·.name = name) then none
    else if s.parameters.any (·.name = name) then some (.repeatedArgument s.function name)
    else some (.unknownArgument s.function name)

/-- The names of the parameters without an argument and without a value of their own. -/
def missing (s : Signature) (given : Arguments) : List String :=
  ((s.later given.places).filter fun p => p.standard.isNone && !given.names.any (·.1 = p.name)).map (·.name)

/-- The values of the parameters, in order. -/
def bind (s : Signature) (given : Arguments) : Except Misuse (List Datum) := do
  match s.nameFault? given with
  | some cause => throw cause
  | none => pure ()
  let most := s.parameters.length
  if most < given.places.length then
    throw (.argumentCount s.function (s.parameters.filter (·.standard.isNone)).length most given.places.length)
  if !(s.missing given).isEmpty then throw (.missingArguments s.function (s.missing given))
  return given.places ++ (s.later given.places).map fun p =>
    ((Data.valueOf? given.names p.name).orElse fun _ => p.standard).getD .none

end Signature

namespace Datum

/-! ### Built-in functions -/

/-- Stops unless a function without parameters gets no arguments. -/
def requireNone (function : String) (given : Arguments) : Except RenderError Unit :=
  if !given.names.isEmpty then .error (.misuse (.noNames function))
  else if given.places.isEmpty then .ok ()
  else .error (.misuse (.noArguments function given.places.length))

/-- The arguments of a built-in function, of which there are so many. -/
def requireCount (function : String) (least most : Nat) (given : Arguments) : Except RenderError (List Datum) :=
  if !given.names.isEmpty then .error (.misuse (.noNames function))
  else if given.places.length < least then .error (.misuse (.tooFewArguments function least given.places.length))
  else if most < given.places.length then .error (.misuse (.tooManyArguments function most given.places.length))
  else .ok given.places

/-- The integer that a value is. -/
def requireInteger (v : Datum) : Except RenderError Int :=
  match v, v.asInteger? with
  | .undefined message, _ => .error (.undefined message)
  | _, some i => .ok i
  | _, Option.none => .error (.misuse (.notInteger v.typeName))

/-- A range from its ends and its step. -/
def makeRange (given : Arguments) : Except RenderError Datum := do
  match ← requireCount "range" 1 3 given with
  | [stop] => return .range 0 (← stop.requireInteger) 1
  | [start, stop] => return .range (← start.requireInteger) (← stop.requireInteger) 1
  | [start, stop, step] =>
    let start ← start.requireInteger
    let stop ← stop.requireInteger
    let step ← step.requireInteger
    if step = 0 then .error (.noStep "range() arg 3 must not be zero") else return .range start stop step
  | _ => return .none

/-- Sets the value of a key: in place if the key is there, else at the end. -/
def setEntry (entries : List (Datum × Datum)) (key value : Datum) : List (Datum × Datum) :=
  if entries.any (·.1.equals key) then
    entries.map fun entry => if entry.1.equals key then (entry.1, value) else entry
  else entries ++ [(key, value)]

/-- The entries of a mapping, or of a list of pairs. -/
def entriesOf (v : Datum) : Except RenderError (List (Datum × Datum)) := do
  match v with
  | .dict entries => return entries
  | _ =>
    let pairs ← (← v.items).mapM fun pair => do
      match ← pair.items with
      | [key, value] => return (key, value)
      | found => .error (.tooFewItems 2 found.length)
    return pairs.foldl (fun entries entry => setEntry entries entry.1 entry.2) []

/-- A mapping from the entries of another and from named values. -/
def makeDict (given : Arguments) : Except RenderError Datum := do
  let entries ← match given.places with
    | [] => pure []
    | [v] => v.entriesOf
    | places => .error (.misuse (.tooManyArguments "dict" 1 places.length))
  return .dict (given.names.foldl (fun entries entry => setEntry entries (.text entry.1) entry.2) entries)

/-! ### Functions of texts -/

/-- Splits a text at a separator that is not empty; `skip` characters belong to a separator already found. -/
def splitOn (separator : List Char) : Nat → List Char → List Char → List (List Char)
  | _, piece, [] => [piece.reverse]
  | skip + 1, piece, _ :: cs => splitOn separator skip piece cs
  | 0, piece, c :: cs =>
    if separator.isPrefixOf (c :: cs) then piece.reverse :: splitOn separator (separator.length - 1) [] cs
    else splitOn separator 0 (c :: piece) cs

/-- The words of a text, which blanks divide. -/
def blankWords (s : String) : List Datum :=
  ((s.toList.splitOnP isBlank).filter fun w => !w.isEmpty).map fun w => .text (String.ofList w)

/-- The text without the given characters at its ends, or without blanks. -/
def stripped (atStart atEnd : Bool) (chars : Option String) (s : String) : String :=
  let drops := fun c => match chars with
    | some chosen => chosen.toList.contains c
    | Option.none => isBlank c
  let cs := if atStart then s.toList.dropWhile drops else s.toList
  String.ofList (if atEnd then (cs.reverse.dropWhile drops).reverse else cs)

/-- The place where a list of characters first occurs in another, counted from the given place. -/
def placeOf? (part : List Char) : Nat → List Char → Option Nat
  | place, [] => if part.isEmpty then some place else Option.none
  | place, c :: cs => if part.isPrefixOf (c :: cs) then some place else placeOf? part (place + 1) cs

/-- The result of a function of a text with the given arguments, all of which are texts. -/
def textResult? (s function : String) (given : List String) : Option (Except RenderError Datum) :=
  match function, given with
  | "upper", [] => some (.ok (.text (upper s)))
  | "lower", [] => some (.ok (.text (lower s)))
  | "capitalize", [] => some (.ok (.text (capitalized s)))
  | "strip", [] => some (.ok (.text (stripped true true Option.none s)))
  | "strip", [chars] => some (.ok (.text (stripped true true (some chars) s)))
  | "lstrip", [] => some (.ok (.text (stripped true false Option.none s)))
  | "lstrip", [chars] => some (.ok (.text (stripped true false (some chars) s)))
  | "rstrip", [] => some (.ok (.text (stripped false true Option.none s)))
  | "rstrip", [chars] => some (.ok (.text (stripped false true (some chars) s)))
  | "startswith", [start] => some (.ok (.bool (start.toList.isPrefixOf s.toList)))
  | "endswith", [ending] => some (.ok (.bool (ending.toList.isSuffixOf s.toList)))
  | "find", [part] => some (.ok (.int (((placeOf? part.toList 0 s.toList).map Int.ofNat).getD (-1))))
  | "replace", [old, new] => some (.ok (.text (String.ofList (replaceAll old new s.toList))))
  | "split", [] => some (.ok (.list (blankWords s)))
  | "split", [separator] =>
    some (if separator = "" then .error .emptySeparator
      else .ok (.list ((splitOn separator.toList 0 [] s.toList).map fun piece => .text (String.ofList piece))))
  | "isdigit", [] => some (.ok (.bool (s ≠ "" && s.toList.all isDigit)))
  | "isspace", [] => some (.ok (.bool (s ≠ "" && s.toList.all isBlank)))
  | "isidentifier", [] => some (.ok (.bool (isIdentifier s.toList)))
  | _, _ => Option.none

/-- The functions of texts that have no parameters. -/
def plainTextFunctions : List String :=
  ["upper", "lower", "capitalize", "title", "swapcase", "casefold", "isdigit", "isspace", "isidentifier", "isalnum",
    "isalpha", "isascii", "isdecimal", "islower", "isnumeric", "isprintable", "istitle", "isupper"]

/-- Calls a function of a text. -/
def callText (s function : String) (given : Arguments) : Except RenderError Datum := do
  if plainTextFunctions.contains function then requireNone ("str." ++ function) given
  if function = "join" then
    match ← requireCount "str.join" 1 1 given with
    | [v] => return .text (s.intercalate (← (← v.items).mapM print))
    | _ => return .none
  else
    match given.places.mapM asText?, given.names with
    | some texts, [] =>
      (textResult? s function texts).getD (.error (.misuse (.notCallable "builtin_function_or_method")))
    | _, _ => .error (.misuse (.notCallable "builtin_function_or_method"))

/-! ### Functions of other values -/

/-- Calls a function of a mapping. -/
def callDict (entries : List (Datum × Datum)) (function : String) (given : Arguments) : Except RenderError Datum := do
  match function with
  | "keys" => do requireNone "dict.keys" given; return .view .keys (entries.map (·.1))
  | "values" => do requireNone "dict.values" given; return .view .values (entries.map (·.2))
  | "items" => do
    requireNone "dict.items" given
    return .view .items (entries.map fun entry => .tuple [entry.1, entry.2])
  | "copy" => do requireNone "dict.copy" given; return .dict entries
  | "get" =>
    let found ← requireCount "get" 1 2 given
    let key := found.headD .none
    return (← (Datum.dict entries).entryAt? key).getD ((found[1]?).getD .none)
  | _ => .error (.misuse (.notCallable "builtin_function_or_method"))

/-- Calls a function of a sequence. -/
def callSequence (items : List Datum) (function : String) (given : Arguments) : Except RenderError Datum := do
  match function, given.places with
  | "copy", [] => return .list items
  | "count", [v] => return .int (items.filter fun item => item.equals v).length
  | _, _ => .error (.misuse (.notCallable "builtin_function_or_method"))

/-- Calls a function of a term. -/
def callTerm (t : Term) (function : String) (given : Arguments) : Except RenderError Datum := do
  match function, t with
  | "n3", _ => (t.render.map .text).mapError .term
  | "toPython", .literal l => return l.value?.elim (.term t) ofLiteral
  | "toPython", .var name => return .text ("?" ++ name)
  | "toPython", _ => return .text t.text
  | _, _ => callText t.text function given

/-- Calls the function of a value. -/
def callMethod (owner : Datum) (function : String) (given : Arguments) : Except RenderError Datum :=
  match owner with
  | .text s => callText s function given
  | .dict entries => callDict entries function given
  | .list items | .tuple items => callSequence items function given
  | .term t => callTerm t function given
  | .pattern p =>
    if function = "keys" then (p.keys.map fun keys => .tuple (keys.map .text)).mapError .term
    else .error (.misuse (.notCallable "method"))
  | .scope s _ =>
    if function = "recommendation_type" then .ok (.recommendation s.recommendation)
    else .error (.misuse (.notCallable "method"))
  | .progress index _ =>
    if function = "cycle" then
      match given.places[(index - 1) % given.places.length]? with
      | some v => .ok v
      | Option.none => .error (.misuse .emptyCycle)
    else .error (.misuse (.notCallable "method"))
  | _ => .error (.misuse (.notCallable "method"))

/-- Calls a value. -/
def call (v : Datum) (given : Arguments) : Except RenderError Datum :=
  match v with
  | .undefined message | .absent message => .error (.undefined message)
  | .method owner function => owner.callMethod function given
  | .kind .range => makeRange given
  | .kind .dict => makeDict given
  | _ => .error (.misuse (.notCallable v.typeName))

end Datum

end PointOfFocus.Template
