import PointOfFocus.Template.Call
import PointOfFocus.Text.Escape

/-!
# Filters

What a filter makes of a value. A filter is a function whose first parameter is the value that it is given; some have
the surroundings of the template before that.
-/

namespace PointOfFocus.Template

open PointOfFocus.Data (valueOf?)
open PointOfFocus.Number
open PointOfFocus.Text

/-- The name and the parameters of a filter, and how many of the parameters are not written in a template. A filter that
is no function of the library has none. -/
def Filter.signature? : Filter → Option (Signature × Nat)
  | .attr => some (⟨"do_attr", [⟨"environment", none⟩, ⟨"obj", none⟩, ⟨"name", none⟩]⟩, 2)
  | .capitalize => some (⟨"do_capitalize", [⟨"s", none⟩]⟩, 1)
  | .default =>
    some (⟨"do_default", [⟨"value", none⟩, ⟨"default_value", some (.text "")⟩, ⟨"boolean", some (.bool false)⟩]⟩, 1)
  | .first => some (⟨"sync_do_first", [⟨"environment", none⟩, ⟨"seq", none⟩]⟩, 2)
  | .float => some (⟨"do_float", [⟨"value", none⟩, ⟨"default", some (.float (Binary64.ofInt 0))⟩]⟩, 1)
  | .int =>
    some (⟨"do_int", [⟨"value", none⟩, ⟨"default", some (.int 0)⟩, ⟨"base", some (.int 10)⟩]⟩, 1)
  | .items => some (⟨"do_items", [⟨"value", none⟩]⟩, 1)
  | .join =>
    some (⟨"sync_do_join", [⟨"eval_ctx", none⟩, ⟨"value", none⟩, ⟨"d", some (.text "")⟩, ⟨"attribute", some .none⟩]⟩, 2)
  | .last => some (⟨"do_last", [⟨"environment", none⟩, ⟨"seq", none⟩]⟩, 2)
  | .list => some (⟨"sync_do_list", [⟨"value", none⟩]⟩, 1)
  | .lower => some (⟨"do_lower", [⟨"s", none⟩]⟩, 1)
  | .replace =>
    some (⟨"do_replace", [⟨"eval_ctx", none⟩, ⟨"s", none⟩, ⟨"old", none⟩, ⟨"new", none⟩, ⟨"count", some .none⟩]⟩, 2)
  | .reverse => some (⟨"do_reverse", [⟨"value", none⟩]⟩, 1)
  | .safe => some (⟨"do_mark_safe", [⟨"value", none⟩]⟩, 1)
  | .sort =>
    some (⟨"do_sort", [⟨"environment", none⟩, ⟨"value", none⟩, ⟨"reverse", some (.bool false)⟩,
      ⟨"case_sensitive", some (.bool false)⟩, ⟨"attribute", some .none⟩]⟩, 2)
  | .queryText => some (⟨"escape_string", [⟨"value", none⟩]⟩, 1)
  | .sum =>
    some (⟨"sync_do_sum", [⟨"environment", none⟩, ⟨"iterable", none⟩, ⟨"attribute", some .none⟩,
      ⟨"start", some (.int 0)⟩]⟩, 2)
  | .trim => some (⟨"do_trim", [⟨"value", none⟩, ⟨"chars", some .none⟩]⟩, 1)
  | .upper => some (⟨"do_upper", [⟨"s", none⟩]⟩, 1)
  | .abs | .escape | .length | .string => none

namespace Datum

/-- The parts of a path of members: digits are indices, anything else a name. -/
def memberPath (v : Datum) : List Datum :=
  match v.asText? with
  | some s => (s.toList.splitOnP (· = '.')).map fun piece =>
      if !piece.isEmpty && piece.all isDigit then .int (digitsValue piece) else .text (String.ofList piece)
  | Option.none => [v]

/-- The part of a value at the end of a path of members. -/
def followPath (v : Datum) (path : List Datum) : Except RenderError Datum :=
  path.foldlM (fun v part => v.item part) v

/-- The items of a value, or the same part of each of them. -/
def itemsBy (v path : Datum) : Except RenderError (List Datum) := do
  let values ← v.items
  match path with
  | .none => return values
  | _ => values.mapM fun item => item.followPath path.memberPath

/-- The value's items, printed with a separator between them. -/
def join (v separator path : Datum) : Except RenderError Datum := do
  let values ← match path with
    | .none => do
      let _ ← separator.print
      v.items
    | _ => v.itemsBy path
  let between ← separator.print
  return .text (between.intercalate (← values.mapM print))

/-- The value, which is a text, as it stands between double quotes. -/
def escaped (v : Datum) : Except RenderError Datum :=
  match v with
  | .undefined message | .absent message => .error (.undefined message)
  | _ => match v.asText? with
    | some s => .ok (.text (String.ofList (escape s.toList)))
    | Option.none => .error (.noPart v.typeName "replace")

/-- The text with the marks of a markup language escaped. -/
def markupEscaped (s : String) : String :=
  String.ofList (s.toList.flatMap fun c => match c with
    | '&' => "&amp;".toList
    | '<' => "&lt;".toList
    | '>' => "&gt;".toList
    | '\'' => "&#39;".toList
    | '"' => "&#34;".toList
    | c => [c])

/-- The items of a value from last to first. -/
def reversed (v : Datum) : Except RenderError Datum :=
  match v.asText? with
  | some s => .ok (.text (String.ofList s.toList.reverse))
  | Option.none => v.items.map fun values => .iterator "list_reverseiterator" values.reverse

/-- What a value is sorted by: texts without regard to case, unless it counts. -/
def sortKey (byCase : Bool) (v : Datum) : Datum :=
  match v with
  | .text s => if byCase then v else .text (lower s)
  | _ => v

/-- Puts an item with its key among sorted ones, after those that are not greater. -/
def insertSorted (entry : Datum × Datum) : List (Datum × Datum) → Except RenderError (List (Datum × Datum))
  | [] => .ok [entry]
  | other :: rest => do
    if ← isOrdered "<" [.lt] entry.1 other.1 then return entry :: other :: rest
    else return other :: (← insertSorted entry rest)

/-- The items of a value in ascending order. -/
def sorted (v path : Datum) (descending byCase : Bool) : Except RenderError Datum := do
  let values ← v.items
  let keyed ← values.mapM fun item => do
    let key ← match path with
      | .none => pure item
      | _ => item.followPath path.memberPath
    return (key.sortKey byCase, item)
  let keyed := if descending then keyed.reverse else keyed
  let entries ← keyed.foldlM (fun entries entry => insertSorted entry entries) []
  return .list ((if descending then entries.reverse else entries).map (·.2))

/-- The data that a value is, as far as numbers are read from it. -/
def numberSource : Datum → Data.Value
  | .bool b => .bool b
  | .int i => .int i
  | .float x => .float x
  | .none => .null
  | v => (v.asText?.map Data.Value.text).getD .null

/-- The value as an integer, or another value if it is none. -/
def toInteger (v standard : Datum) : Except RenderError Datum := do
  v.requireDefined
  match v.numberSource.toInteger with
  | .ok i => return .int i
  | .error _ =>
    match v.numberSource.toFloat with
    | .ok x => return (x.truncate?.map Datum.int).getD standard
    | .error _ => return standard

/-- The value as a floating-point number, or another value if it is none. -/
def toFloatOr (v standard : Datum) : Except RenderError Datum := do
  v.requireDefined
  return match v.numberSource.toFloat with
    | .ok x => .float x
    | .error _ => standard

/-- The text without blanks or the given characters around it. -/
def trimmed (v chars : Datum) : Except RenderError Datum := do
  return .text (stripped true true chars.asText? (← v.print))

/-- The absolute value of a number. -/
def absolute (v : Datum) : Except RenderError Datum :=
  match v, v.numeral? with
  | .undefined message, _ => .error (.undefined message)
  | _, some (.int i) => .ok (.int i.natAbs)
  | _, some (.float x) => .ok (.float (if x.isNegative then x.neg else x))
  | _, Option.none => .error (.misuse (.operand "abs()" v.typeName))

/-- A value, or another one if it is not defined; with `boolean` also if it counts as false. -/
def orDefault (v standard boolean : Datum) : Except RenderError Datum := do
  match v with
  | .undefined _ | .absent _ => return standard
  | _ => if (← boolean.isTrue) && !(← v.isTrue) then return standard else return v

/-- The entries of a mapping as pairs, to be taken one after the other. -/
def pairs (v : Datum) : Except RenderError Datum :=
  match v with
  | .undefined _ | .absent _ => .ok (.iterator "generator" [])
  | .dict entries => .ok (.iterator "generator" (entries.map fun entry => .tuple [entry.1, entry.2]))
  | _ => .error (.misuse (.notIterable v.typeName))

/-- What a filter makes of the values of its parameters, those that are written in no template left out. -/
def filteredBy (f : Filter) (values : List Datum) : Except RenderError Datum :=
  let v := values.headD .none
  let second := values.getD 1 .none
  let third := values.getD 2 .none
  match f with
  | .abs => v.absolute
  | .attr => do
    let part ← second.print
    return (← v.member? part).getD (v.lacking (.text part))
  | .capitalize => do return .text (capitalized (← v.print))
  | .default => v.orDefault second third
  | .escape => do return .text (markupEscaped (← v.print))
  | .first => do return ((← v.items).head?).getD (.undefined "No first item, sequence was empty.")
  | .float => v.toFloatOr second
  | .int => v.toInteger second
  | .items => v.pairs
  | .join => v.join second third
  | .last => do return ((← v.items).getLast?).getD (.undefined "No last item, sequence was empty.")
  | .length => v.length.map fun n => .int n
  | .list => v.items.map .list
  | .lower => do return .text (lower (← v.print))
  | .replace => do
    let s ← v.print
    let old ← second.print
    let new ← third.print
    return .text (String.ofList (replaceAll old new s.toList))
  | .reverse => v.reversed
  | .safe | .string => do return .text (← v.print)
  | .sort => do v.sorted (values.getD 3 .none) (← second.isTrue) (← third.isTrue)
  | .queryText => v.escaped
  | .sum => do (← v.itemsBy second).foldlM (operate .add) third
  | .trim => v.trimmed second
  | .upper => do return .text (upper (← v.print))

/-- The name of a filter that is built in. -/
def builtinName : Filter → String
  | .abs => "abs"
  | .length => "len"
  | .escape => "escape"
  | _ => "soft_str"

/-- A value put through a filter with arguments. -/
def filtered (v : Datum) (f : Filter) (given : Arguments) : Except RenderError Datum := do
  match f.signature? with
  | some (signature, own) =>
    let before := List.replicate (own - 1) Datum.none
    let values ← (signature.bind { given with places := before ++ v :: given.places }).mapError .misuse
    filteredBy f (values.drop (own - 1))
  | Option.none =>
    if !given.names.isEmpty then .error (.misuse (.noNames (builtinName f)))
    else if !given.places.isEmpty then .error (.misuse (.oneArgument (builtinName f) (given.places.length + 1)))
    else filteredBy f [v]

end Datum

end PointOfFocus.Template
