import PointOfFocus.Scope.Recommendation
import PointOfFocus.Template.Error

/-!
# The values that a template sees

Besides plain data a template sees the patterns of a scope with their terms, the scope itself, and the progress
of the loop that it is in. A value that is not defined may be passed on but not used; the missing half of a choice
may be used, and is empty. A term is also a text, unless it is a path.
-/

namespace PointOfFocus.Template

open PointOfFocus.Calendar
open PointOfFocus.Number
open PointOfFocus.Rdf
open PointOfFocus.Text (quoted)

/-- A kind of value that a template sees as a value of its own. -/
inductive Kind where
  /-- The kind of ranges. -/
  | range
  /-- The kind of mappings. -/
  | dict
  /-- The kind of wheels that turn through values. -/
  | cycler
  /-- The kind of separators that are empty at first. -/
  | joiner
  /-- The kind of values whose parts can be set. -/
  | holder
deriving DecidableEq

/-- The name of the kind. -/
def Kind.text : Kind → String
  | .range => "range"
  | .dict => "dict"
  | .cycler => "jinja2.utils.Cycler"
  | .joiner => "jinja2.utils.Joiner"
  | .holder => "jinja2.utils.Namespace"

/-- What a view of a mapping shows. -/
inductive View where
  /-- The keys. -/
  | keys
  /-- The values. -/
  | values
  /-- The keys with their values. -/
  | items
deriving DecidableEq

/-- The name of the view. -/
def View.text : View → String
  | .keys => "dict_keys"
  | .values => "dict_values"
  | .items => "dict_items"

/-- A value in a template. -/
inductive Datum where
  /-- The absent value. -/
  | none
  /-- A truth value. -/
  | bool (b : Bool)
  /-- An integer. -/
  | int (i : Int)
  /-- A floating-point number. -/
  | float (x : Binary64)
  /-- A text. -/
  | text (s : String)
  /-- What a literal denotes, if it is none of the above. -/
  | denoted (value : LiteralValue)
  /-- A list. -/
  | list (items : List Datum)
  /-- A group of fixed size. -/
  | tuple (items : List Datum)
  /-- A mapping, with its entries in order. -/
  | dict (entries : List (Datum × Datum))
  /-- A view of a mapping. -/
  | view (kind : View) (items : List Datum)
  /-- The integers from one up to another, in steps. -/
  | range (start stop step : Int)
  /-- Items to be taken one after the other, of a type with the given name. -/
  | iterator (type : String) (items : List Datum)
  /-- A term. -/
  | term (value : Term)
  /-- A triple pattern. -/
  | pattern (value : Pattern)
  /-- A pattern under construction. -/
  | cursor (value : Cursor)
  /-- A scope, with the further values that were given with it. -/
  | scope (value : Scope) (context : List (String × Data.Value))
  /-- A kind of recommendation. -/
  | recommendation (value : Recommendation)
  /-- The progress of a loop over the items: the number of the round, from one. -/
  | progress (index : Nat) (items : List Datum)
  /-- A function that belongs to a value, by its name. -/
  | method (owner : Datum) (name : String)
  /-- A kind of value. -/
  | kind (value : Kind)
  /-- The template itself. -/
  | template
  /-- A value that is not defined, with the message for its use. -/
  | undefined (message : String)
  /-- The missing half of a choice, with the message for the use of its parts. -/
  | absent (message : String)

namespace Datum

/-- A text that may be missing. -/
def ofText? (s : Option String) : Datum := s.elim .none .text

/-- A term that may be missing. -/
def ofTerm? (t : Option Term) : Datum := t.elim .none .term

mutual

/-- Plain data as a value. -/
def ofValue : Data.Value → Datum
  | .null => .none
  | .bool b => .bool b
  | .int i => .int i
  | .float x => .float x
  | .text s => .text s
  | .list items => .list (ofValues items)
  | .dict entries => .dict (ofEntries entries)
  | .mapping entries => .dict (ofPairs entries)
  | .bytes bs => .denoted (.bytes bs)
  | .date d => .denoted (.date d)
  | .moment m => .denoted (.moment m)
  | .tuple items => .tuple (ofValues items)
  | .set items => .list (ofValues items)

/-- Lists of plain data as values. -/
def ofValues : List Data.Value → List Datum
  | [] => []
  | v :: vs => ofValue v :: ofValues vs

/-- Entries of a mapping with names as values. -/
def ofEntries : List (String × Data.Value) → List (Datum × Datum)
  | [] => []
  | (key, v) :: rest => (.text key, ofValue v) :: ofEntries rest

/-- Entries of a mapping with keys of any kind as values. -/
def ofPairs : List (Data.Value × Data.Value) → List (Datum × Datum)
  | [] => []
  | (key, v) :: rest => (ofValue key, ofValue v) :: ofPairs rest

end

/-- What a literal denotes as a value. -/
def ofLiteral : LiteralValue → Datum
  | .text s => .text s
  | .int i => .int i
  | .float x => .float x
  | .bool b => .bool b
  | v => .denoted v

/-- A mapping from texts to texts. -/
def ofPrefixes (entries : List (String × String)) : Datum :=
  .dict (entries.map fun entry => (.text entry.1, .text entry.2))

/-- Texts as a list. -/
def ofTexts (texts : List String) : Datum := .list (texts.map .text)

/-- The text that a value is, if it is one. -/
def asText? : Datum → Option String
  | .text s => some s
  | .term t => if t.isPath then Option.none else some t.text
  | _ => Option.none

/-- The integer that a value is, if it is one; truth values are integers. -/
def asInteger? : Datum → Option Int
  | .bool b => some (if b then 1 else 0)
  | .int i => some i
  | _ => Option.none

/-! ### Names of types -/

/-- The name of a term's type, and where it comes from. -/
def termType : Term → String × String
  | .var _ => ("rdflib.term.", "Variable")
  | .blank _ => ("rdflib.term.", "BNode")
  | .literal _ => ("rdflib.term.", "Literal")
  | .iri _ => ("rdflib.term.", "URIRef")
  | .sequence _ => ("rdflib.paths.", "SequencePath")
  | .alternative _ => ("rdflib.paths.", "AlternativePath")
  | .inverse _ => ("rdflib.paths.", "InvPath")

/-- The name of the type of what a literal denotes, and where it comes from. -/
def denotedType : LiteralValue → String × String
  | .text _ => ("", "str")
  | .int _ => ("", "int")
  | .float _ => ("", "float")
  | .bool _ => ("", "bool")
  | .decimal _ => ("", "decimal.Decimal")
  | .date _ => ("", "datetime.date")
  | .time _ => ("", "datetime.time")
  | .moment _ => ("", "datetime.datetime")
  | .duration d => if d.months.isSome then ("rdflib.xsd_datetime.", "Duration") else ("", "datetime.timedelta")
  | .bytes _ => ("", "bytes")
  | .markup _ => ("xml.dom.minidom.", "DocumentFragment")

/-- Whether the functions of a value are written in the language of templates' values, and not built in. -/
def hasOwnFunctions : Datum → String → Bool
  | .term _, part => part = "n3" || part = "toPython" || part = "startswith" || part = "defrag" || part = "eval"
  | .pattern _, _ | .cursor _, _ | .scope _ _, _ | .recommendation _, _ | .progress _ _, _ | .template, _ => true
  | _, _ => false

/-- The name of the value's type, and where it comes from. -/
def typeOf : Datum → String × String
  | .none => ("", "NoneType")
  | .bool _ => ("", "bool")
  | .int _ => ("", "int")
  | .float _ => ("", "float")
  | .text _ => ("", "str")
  | .denoted v => denotedType v
  | .list _ => ("", "list")
  | .tuple _ => ("", "tuple")
  | .dict _ => ("", "dict")
  | .view shown _ => ("", shown.text)
  | .range _ _ _ => ("", "range")
  | .iterator type _ => ("", type)
  | .term t => termType t
  | .pattern _ => ("sparqled.autocompletion.scope.", "TriplePattern")
  | .cursor _ => ("sparqled.autocompletion.scope.", "Cursor")
  | .scope _ _ => ("sparqled.autocompletion.scope.", "Scope")
  | .recommendation _ => ("sparqled.autocompletion.scope.", "RecommendationType")
  | .progress _ _ => ("jinja2.runtime.", "LoopContext")
  | .method owner part => if owner.hasOwnFunctions part then ("", "method") else ("", "builtin_function_or_method")
  | .kind _ => ("", "type")
  | .template => ("jinja2.runtime.", "TemplateReference")
  | .undefined _ => ("jinja2.runtime.", "StrictUndefined")
  | .absent _ => ("jinja2.runtime.", "Undefined")

/-- The name of the value's type. -/
def typeName (v : Datum) : String := v.typeOf.2

/-- The name of the value's type in messages about its parts. -/
def kindName : Datum → String
  | .none => "None"
  | v => v.typeOf.1 ++ v.typeOf.2 ++ " object"

/-! ### Texts -/

/-- A time of day inside another value's text. Seconds that are zero are left out. -/
def innerTime (c : Clock) : String :=
  let t := c.time
  let seconds := if t.micro ≠ 0 then [t.second, t.micro] else if t.second ≠ 0 then [t.second] else []
  "datetime.time(" ++ Data.Value.arguments ([t.hour, t.minute] ++ seconds)
    ++ ((c.offset.map fun micros => ", tzinfo=" ++ Data.Value.innerOffset micros).getD "") ++ ")"

/-- What a literal denotes, inside another value's text. -/
def innerDenoted : LiteralValue → String
  | .text s => quoted s
  | .int i => integerText i
  | .float x => x.text
  | .bool b => if b then "True" else "False"
  | .decimal d => "Decimal('" ++ d.compact ++ "')"
  | .date d => Data.Value.inner (.date d)
  | .time c => innerTime c
  | .moment m => Data.Value.innerMoment m
  | .duration d => Data.Value.innerDistance d.micros
  | .bytes bs => Data.quotedBytes bs
  | .markup _ => "<xml.dom.minidom.DocumentFragment>"

/-- What a literal denotes, as text. -/
def denotedText : LiteralValue → String
  | .text s => s
  | .decimal d => d.compact
  | .date d => d.text
  | .time c => c.text
  | .moment m => m.textWith " "
  | .duration d => d.wordText
  | v => innerDenoted v

/-- A term inside another value's text. -/
def innerTerm : Term → String
  | .literal l =>
    let qualifier := match l.qualifier with
      | .none => ""
      | .language tag => ", lang=" ++ quoted tag
      | .datatype iri => ", datatype=rdflib.term.URIRef(" ++ quoted iri ++ ")"
    "rdflib.term.Literal(" ++ quoted l.lexical ++ qualifier ++ ")"
  | t => if t.isPath then t.text else (termType t).1 ++ (termType t).2 ++ "(" ++ quoted t.text ++ ")"

/-- A term that may be missing inside another value's text. -/
def innerTerm? (t : Option Term) : String := (t.map innerTerm).getD "None"

/-- The parts of a value inside another value's text. -/
def innerParts (name : String) (parts : List (String × String)) : String :=
  name ++ "(" ++ ", ".intercalate (parts.map fun p => p.1 ++ "=" ++ p.2) ++ ")"

/-- A pattern inside another value's text. -/
def innerPattern (p : Pattern) : String :=
  innerParts "TriplePattern" [("subject", innerTerm p.subject), ("predicate", innerTerm p.predicate),
    ("object", innerTerm p.object), ("leaf", if p.leaf then "True" else "False")]

/-- A pattern under construction inside another value's text. -/
def innerCursor (c : Cursor) : String :=
  innerParts "Cursor" [("subject", innerTerm? c.subject), ("predicate", innerTerm? c.predicate),
    ("object", innerTerm? c.object)]

/-- A kind of recommendation as text. -/
def recommendationText (r : Recommendation) : String :=
  "RecommendationType." ++ String.ofList (r.text.toList.map Char.toUpper)

mutual

/-- The value as it stands inside another value's text: texts are quoted. -/
def inner : Datum → String
  | .none => "None"
  | .bool b => if b then "True" else "False"
  | .int i => integerText i
  | .float x => x.text
  | .text s => quoted s
  | .denoted v => innerDenoted v
  | .list items => "[" ++ ", ".intercalate (innerItems items) ++ "]"
  | .tuple [v] => "(" ++ v.inner ++ ",)"
  | .tuple items => "(" ++ ", ".intercalate (innerItems items) ++ ")"
  | .dict entries => "\x7b" ++ ", ".intercalate (innerEntries entries) ++ "\x7d"
  | .view shown items => shown.text ++ "([" ++ ", ".intercalate (innerItems items) ++ "])"
  | .range start stop step =>
    "range(" ++ integerText start ++ ", " ++ integerText stop
      ++ (if step = 1 then "" else ", " ++ integerText step) ++ ")"
  | .iterator type _ => "<" ++ type ++ " object>"
  | .term t => innerTerm t
  | .pattern p => innerPattern p
  | .cursor c => innerCursor c
  | .scope s _ => "Scope(pof=" ++ quoted s.projection ++ ")"
  | .recommendation r => "<" ++ recommendationText r ++ ": " ++ quoted r.text ++ ">"
  | .progress index items => "<LoopContext " ++ index.repr ++ "/" ++ items.length.repr ++ ">"
  | .method owner part =>
    if owner.hasOwnFunctions part then
      "<bound method " ++ owner.typeName ++ "." ++ part ++ " of " ++ owner.inner ++ ">"
    else "<built-in method " ++ part ++ " of " ++ owner.typeName ++ " object>"
  | .kind k => "<class '" ++ k.text ++ "'>"
  | .template => "<TemplateReference None>"
  | .undefined _ | .absent _ => "Undefined"

/-- The items of a list, each as it stands inside the list. -/
def innerItems : List Datum → List String
  | [] => []
  | v :: vs => v.inner :: innerItems vs

/-- The entries of a mapping, each as it stands inside the mapping. -/
def innerEntries : List (Datum × Datum) → List String
  | [] => []
  | (key, v) :: rest => (key.inner ++ ": " ++ v.inner) :: innerEntries rest

end

/-- The value as it is printed. -/
def print : Datum → Except RenderError String
  | .text s => .ok s
  | .denoted v => .ok (denotedText v)
  | .term t => .ok t.text
  | .pattern p => p.render.mapError .term
  | .recommendation r => .ok (recommendationText r)
  | .undefined message => .error (.undefined message)
  | .absent _ => .ok ""
  | v => .ok v.inner

/-! ### Truth and items -/

/-- The integers of a range. -/
def rangeItems (start stop step : Int) : List Int :=
  let count := if 0 < step then (stop - start + step - 1) / step
    else if step < 0 then (start - stop - step - 1) / (-step) else 0
  (List.range count.toNat).map fun (i : Nat) => start + i * step

/-- Whether the value counts as true. -/
def isTrue : Datum → Except RenderError Bool
  | .none => .ok false
  | .bool b => .ok b
  | .int i => .ok (i ≠ 0)
  | .float x => .ok !x.isZero
  | .text s => .ok (s ≠ "")
  | .denoted v => .ok v.isTrue
  | .list items | .tuple items | .view _ items => .ok !items.isEmpty
  | .dict entries => .ok !entries.isEmpty
  | .range start stop step => .ok !(rangeItems start stop step).isEmpty
  | .term (.literal l) => .ok l.isTrue
  | .term t => .ok (t.isPath || t.text ≠ "")
  | .undefined message => .error (.undefined message)
  | .absent _ => .ok false
  | _ => .ok true

/-- The characters of a text as values. -/
def characters (s : String) : List Datum :=
  s.toList.map fun c => .text (String.singleton c)

/-- The items of the value, for a loop. -/
def items (v : Datum) : Except RenderError (List Datum) :=
  match v with
  | .list items | .tuple items | .view _ items | .iterator _ items => .ok items
  | .dict entries => .ok (entries.map (·.1))
  | .range start stop step => .ok ((rangeItems start stop step).map .int)
  | .denoted (.bytes bs) => .ok (bs.map fun (b : Nat) => .int b)
  | .progress index items => .ok (items.drop index)
  | .undefined message => .error (.undefined message)
  | .absent _ => .ok []
  | _ => match v.asText? with
    | some s => .ok (characters s)
    | Option.none => .error (.misuse (.notIterable v.typeName))

/-- The number of the value's items. -/
def length (v : Datum) : Except RenderError Nat :=
  match v with
  | .list items | .tuple items | .view _ items | .progress _ items => .ok items.length
  | .dict entries => .ok entries.length
  | .range start stop step => .ok (rangeItems start stop step).length
  | .denoted (.bytes bs) => .ok bs.length
  | .undefined message => .error (.undefined message)
  | .absent _ => .ok 0
  | _ => match v.asText? with
    | some s => .ok s.length
    | Option.none => .error (.misuse (.noLength v.typeName))

end Datum

end PointOfFocus.Template
