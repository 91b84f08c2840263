import PointOfFocus.Template.Compare

/-!
# Parts of values

A value has parts with names, its members, and parts at indices, its entries. After a point a member is preferred, and
in brackets an entry; each falls back on the other. A part that does not exist is a value that is not defined.
-/

namespace PointOfFocus.Template

open PointOfFocus.Rdf
open PointOfFocus.Text (quoted)

namespace Datum

/-! ### Names of functions -/

/-- The functions of texts. -/
def textFunctions : List String :=
  ["capitalize", "casefold", "center", "count", "encode", "endswith", "expandtabs", "find", "format", "format_map",
    "index", "isalnum", "isalpha", "isascii", "isdecimal", "isdigit", "isidentifier", "islower", "isnumeric",
    "isprintable", "isspace", "istitle", "isupper", "join", "ljust", "lower", "lstrip", "maketrans", "partition",
    "removeprefix", "removesuffix", "replace", "rfind", "rindex", "rjust", "rpartition", "rsplit", "rstrip", "split",
    "splitlines", "startswith", "strip", "swapcase", "title", "translate", "upper", "zfill"]

/-- The functions of mappings. -/
def dictFunctions : List String :=
  ["clear", "copy", "fromkeys", "get", "items", "keys", "pop", "popitem", "setdefault", "update", "values"]

/-- The functions of lists. -/
def listFunctions : List String :=
  ["append", "clear", "copy", "count", "extend", "index", "insert", "pop", "remove", "reverse", "sort"]

/-- The functions of integers. -/
def integerFunctions : List String :=
  ["as_integer_ratio", "bit_count", "bit_length", "conjugate", "from_bytes", "to_bytes"]

/-- The functions of floating-point numbers. -/
def floatFunctions : List String := ["as_integer_ratio", "conjugate", "fromhex", "hex", "is_integer"]

/-- The functions of all terms that are no paths, besides those of texts. -/
def termFunctions : List String := ["n3", "toPython", "eq", "neq"]

/-- The functions of scopes. -/
def scopeFunctions : List String :=
  ["add_intermediate_path", "add_prefix", "add_triple_pattern", "mark_leaves", "recommendation_query",
    "recommendation_type", "render", "reset", "set_base", "set_keyword", "set_object", "set_path_length",
    "set_predicate", "set_prefix", "set_subject", "trim_to_scope"]

/-- The function of a value, if it is among the given ones. -/
def functionOf (v : Datum) (names : List String) (part : String) : Option Datum :=
  if names.contains part then some (.method v part) else Option.none

/-! ### Members -/

/-- A member of a pattern. -/
def patternMember? (p : Pattern) (part : String) : Except RenderError (Option Datum) :=
  match part with
  | "s" => (p.subject.render.map fun s => some (.text s)).mapError .term
  | "p" => (p.predicate.renderPredicate.map fun s => some (.text s)).mapError .term
  | "o" => (p.object.render.map fun s => some (.text s)).mapError .term
  | "subject" => .ok (some (.term p.subject))
  | "predicate" => .ok (some (.term p.predicate))
  | "object" => .ok (some (.term p.object))
  | "leaf" => .ok (some (.bool p.leaf))
  | _ => .ok (functionOf (.pattern p) ["keys", "touches"] part)

/-- A member of a pattern under construction. -/
def cursorMember? (c : Cursor) (part : String) : Option Datum :=
  match part with
  | "subject" => some (ofTerm? c.subject)
  | "predicate" => some (ofTerm? c.predicate)
  | "object" => some (ofTerm? c.object)
  | _ => Option.none

/-- A member of a scope. -/
def scopeMember? (s : Scope) (context : List (String × Data.Value)) (part : String) :
    Except RenderError (Option Datum) :=
  match part with
  | "pof" => .ok (some (.text s.projection))
  | "path_length" => .ok (some (.int s.pathLength))
  | "keyword" => .ok (some (ofText? s.keyword))
  | "prefix" => .ok (some (ofText? s.iriStart))
  | "prefixes" => .ok (some (ofPrefixes s.prefixes))
  | "base" => .ok (some (ofText? s.base))
  | "patterns" => .ok (some (.list (s.patterns.map .pattern)))
  | "current" => .ok (some (.cursor s.current))
  | "context" => .ok (some (.dict (ofEntries context)))
  | "template" => .ok (some .template)
  | "pof_subject" => (s.focusSubject.map fun t => some (ofText? t)).mapError .term
  | _ => .ok (functionOf (.scope s context) scopeFunctions part)

/-- A member of a loop's progress. -/
def progressMember? (index : Nat) (items : List Datum) (part : String) : Option Datum :=
  match part with
  | "index" => some (.int index)
  | "index0" => some (.int (index - 1 : Nat))
  | "first" => some (.bool (index = 1))
  | "last" => some (.bool (index = items.length))
  | "length" => some (.int items.length)
  | "revindex" => some (.int (items.length - index + 1 : Nat))
  | "revindex0" => some (.int (items.length - index : Nat))
  | "depth" => some (.int 1)
  | "depth0" => some (.int 0)
  | "previtem" =>
    if index = 1 then some (.undefined "there is no previous item")
    else some ((items[index - 2]?).getD (.undefined "there is no previous item"))
  | "nextitem" => some ((items[index]?).getD (.undefined "there is no next item"))
  | _ => functionOf (.progress index items) ["cycle", "changed"] part

/-- What follows the first number sign of an IRI. -/
def fragment (iri : String) : String :=
  String.ofList ((iri.toList.dropWhile (· ≠ '#')).drop 1)

/-- A member of a literal that other terms do not have. -/
def literalMember? (l : Literal) (part : String) : Option Datum :=
  match part, l.qualifier with
  | "language", .language tag => some (.text tag)
  | "language", _ => some .none
  | "datatype", .datatype iri => some (.term (.iri iri))
  | "datatype", _ => some .none
  | "value", _ => some (l.value?.elim .none ofLiteral)
  | _, _ => Option.none

/-- A member of a term. -/
def termMember? (t : Term) (part : String) : Option Datum :=
  let function := functionOf (.term t) (textFunctions ++ termFunctions) part
  match t with
  | .literal l => (literalMember? l part).orElse fun _ => function
  | .iri name => if part = "fragment" then some (.text (fragment name)) else function
  | .var _ | .blank _ => function
  | .inverse inner => if part = "arg" then some (.term inner) else functionOf (.term t) ["n3", "eval"] part
  | .sequence ts | .alternative ts =>
    if part = "args" then some (.list (ts.map .term)) else functionOf (.term t) ["n3", "eval"] part

/-- A member of a date or time that a literal denotes. -/
def denotedMember? (v : LiteralValue) (part : String) : Option Datum :=
  let date (d : Calendar.Date) : Option Datum := match part with
    | "year" => some (.int d.year)
    | "month" => some (.int d.month)
    | "day" => some (.int d.day)
    | _ => Option.none
  let time (t : Calendar.Time) : Option Datum := match part with
    | "hour" => some (.int t.hour)
    | "minute" => some (.int t.minute)
    | "second" => some (.int t.second)
    | "microsecond" => some (.int t.micro)
    | _ => Option.none
  match v with
  | .date d => date d
  | .time c => time c.time
  | .moment m => (date m.date).orElse fun _ => time m.clock.time
  | _ => Option.none

/-- A member of a number: its parts as a complex number and as a fraction. -/
def numberMember? (v zero : Datum) (functions : List String) (part : String) : Option Datum :=
  match part with
  | "real" => some v
  | "imag" => some zero
  | _ => functionOf v functions part

/-- A member of an integer. -/
def integerMember? (i : Int) (part : String) : Option Datum :=
  match part with
  | "numerator" => some (.int i)
  | "denominator" => some (.int 1)
  | _ => numberMember? (.int i) (.int 0) integerFunctions part

/-- The member of the value with the given name, if there is one. -/
def member? (v : Datum) (part : String) : Except RenderError (Option Datum) :=
  match v with
  | .undefined message | .absent message => .error (.undefined message)
  | .text _ => .ok (functionOf v textFunctions part)
  | .bool b => .ok (integerMember? (if b then 1 else 0) part)
  | .int i => .ok (integerMember? i part)
  | .float _ => .ok (numberMember? v (.float (Number.Binary64.ofInt 0)) floatFunctions part)
  | .denoted value => .ok (denotedMember? value part)
  | .list _ => .ok (functionOf v listFunctions part)
  | .tuple _ => .ok (functionOf v ["count", "index"] part)
  | .dict _ => .ok (functionOf v dictFunctions part)
  | .range start stop step => .ok (match part with
    | "start" => some (.int start)
    | "stop" => some (.int stop)
    | "step" => some (.int step)
    | _ => functionOf v ["count", "index"] part)
  | .term t => .ok (termMember? t part)
  | .pattern p => patternMember? p part
  | .cursor c => .ok (cursorMember? c part)
  | .scope s context => scopeMember? s context part
  | .recommendation r => .ok (match part with
    | "value" => some (.text r.text)
    | "name" => some (.text (String.ofList (r.text.toList.map Char.toUpper)))
    | _ => Option.none)
  | .progress index items => .ok (progressMember? index items part)
  | _ => .ok Option.none

/-! ### Entries -/

/-- The place in a list that an index names; negative ones count from the end. -/
def place? (length : Nat) (index : Int) : Option Nat :=
  if 0 ≤ index then if index.toNat < length then some index.toNat else Option.none
  else if (-index).toNat ≤ length then some (length - (-index).toNat) else Option.none

/-- The item of a list at the index. -/
def itemAt? (items : List Datum) (index : Datum) : Option Datum := do
  items[← place? items.length (← index.asInteger?)]?

/-- The entry of the value at the given index, if there is one. -/
def entryAt? (v index : Datum) : Except RenderError (Option Datum) := do
  match v with
  | .undefined message | .absent message => .error (.undefined message)
  | .dict entries =>
    index.requireDefined
    return if index.isKey then (entries.find? fun entry => entry.1.equals index).map (·.2) else Option.none
  | .list items | .tuple items => return itemAt? items index
  | .range start stop step => return itemAt? ((rangeItems start stop step).map .int) index
  | .denoted (.bytes bs) => return itemAt? (bs.map fun (b : Nat) => .int b) index
  | _ => return v.asText?.bind fun s => itemAt? (characters s) index

/-! ### Parts -/

/-- The value for a part that does not exist. -/
def lacking (v part : Datum) : Datum :=
  match part.asText? with
  | some _ => .undefined (quoted v.kindName ++ " has no attribute " ++ part.inner)
  | Option.none => .undefined (v.kindName ++ " has no element " ++ part.inner)

/-- The part of the value with the given name. -/
def member (v : Datum) (part : String) : Except RenderError Datum := do
  match ← v.member? part with
  | some found => return found
  | Option.none => return (← v.entryAt? (.text part)).getD (v.lacking (.text part))

/-- The part of the value at the given index. -/
def item (v index : Datum) : Except RenderError Datum := do
  match ← v.entryAt? index with
  | some found => return found
  | Option.none =>
    match index.asText? with
    | some part => return (← v.member? part).getD (v.lacking index)
    | Option.none => return v.lacking index

/-! ### Slices -/

/-- An end of a slice: nothing, or an integer. -/
def sliceEnd? : Datum → Except RenderError (Option Int)
  | .none => .ok Option.none
  | v => match v.asInteger? with
    | some i => .ok (some i)
    | Option.none => .error (.misuse .sliceIndex)

/-- An end of a slice, brought into the range of places; `least` and `most` are the ends of that range. -/
def clamp (length least most : Int) (i : Int) : Int :=
  let i := if i < 0 then i + length else i
  max least (min most i)

/-- The places that a slice takes. -/
def slicePlaces (length : Nat) (start stop : Option Int) (step : Int) : List Int :=
  if 0 < step then
    rangeItems ((start.map (clamp length 0 length)).getD 0) ((stop.map (clamp length 0 length)).getD length) step
  else
    rangeItems ((start.map (clamp length (-1) (length - 1))).getD (length - 1))
      ((stop.map (clamp length (-1) (length - 1))).getD (-1)) step

/-- The items at the places. -/
def itemsAt {α : Type} (items : List α) (places : List Int) : List α :=
  places.filterMap fun i => items[i.toNat]?

/-- The part of the value from one place up to another. -/
def slice (v start stop step : Datum) : Except RenderError Datum := do
  let take {α : Type} (items : List α) : Except RenderError (List α) := do
    let start ← sliceEnd? start
    let stop ← sliceEnd? stop
    let step := (← sliceEnd? step).getD 1
    if step = 0 then .error (.noStep "slice step cannot be zero")
    else return itemsAt items (slicePlaces items.length start stop step)
  match v with
  | .undefined message | .absent message => .error (.undefined message)
  | .list items => return .list (← take items)
  | .tuple items => return .tuple (← take items)
  | .range start stop step => return .list ((← take (rangeItems start stop step)).map .int)
  | .dict _ => .error (.misuse (.unhashable "slice"))
  | _ => match v.asText? with
    | some s => return .text (String.ofList (← take s.toList))
    | Option.none => .error (.misuse (.notSubscriptable v.typeName))

end Datum

end PointOfFocus.Template
