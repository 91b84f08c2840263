import PointOfFocus.Rdf.LiteralValue
import PointOfFocus.Text.Replace

/-!
# Literals

A literal has a text, and either a language tag, a datatype or neither. The text of a literal with a standard
datatype is brought to one form: numbers lose leading zeros and signs without meaning, truth values have two
texts only, blanks are dropped where the datatype says so. A text that does not denote a value of the datatype is
kept as it is.
-/

namespace PointOfFocus.Rdf

open PointOfFocus.Number
open PointOfFocus.Text

/-- What a literal's text is qualified by. -/
inductive Qualifier where
  /-- Nothing: a plain text. -/
  | none
  /-- A language tag. -/
  | language (tag : String)
  /-- The IRI of a datatype. -/
  | datatype (iri : String)
deriving DecidableEq

/-- A literal. -/
structure Literal where
  /-- The text. -/
  lexical : String
  /-- Its language or datatype. -/
  qualifier : Qualifier
deriving DecidableEq

/-! ### One text for each value -/

/-- The text with every line end and tab replaced by a space. -/
def spaced (cs : List Char) : List Char :=
  cs.map fun c => if c = '\t' || c = '\n' || c = '\r' then ' ' else c

/-- The text with every run of spaces replaced by one. -/
def singleSpaced : List Char → List Char
  | ' ' :: ' ' :: cs => singleSpaced (' ' :: cs)
  | c :: cs => c :: singleSpaced cs
  | [] => []

/-- The text of a literal with the given datatype. -/
def normalized (iri text : String) : String :=
  if iri = datatype "normalizedString" then String.ofList (spaced text.toList)
  else if iri = datatype "token" then String.ofList (singleSpaced (trimBlanks (spaced text.toList)))
  else ((LiteralValue.read? iri text).map (LiteralValue.lexical iri)).getD text

/-! ### Construction -/

/-- A plain literal. -/
def Literal.plain (text : String) : Literal := ⟨text, .none⟩

/-- A literal with a datatype. -/
def Literal.typed (text iri : String) : Literal := ⟨normalized iri text, .datatype iri⟩

/-- What the literal denotes: a text stands for itself unless a datatype gives it another meaning, or none. -/
def Literal.value? (l : Literal) : Option LiteralValue :=
  match l.qualifier with
  | .datatype iri => LiteralValue.read? iri l.lexical
  | _ => some (.text l.lexical)

/-- Whether the literal counts as true: by its value, or by its text if it has no value. -/
def Literal.isTrue (l : Literal) : Bool :=
  (l.value?.map LiteralValue.isTrue).getD (l.lexical ≠ "")

/-- Whether the text is a language tag, a final line end being overlooked. -/
def isLanguageTag (tag : String) : Bool :=
  let cs := tag.toList
  let cs := if cs.getLast? = some '\n' then cs.dropLast else cs
  match cs.splitOnP (· = '-') with
  | first :: rest =>
    !first.isEmpty && first.all Char.isAlpha && rest.all fun part => !part.isEmpty && part.all Char.isAlphanum
  | [] => false

/-! ### Written form -/

/-- The text between three quotes, before the last quote is looked after. -/
def longBody : List Char → List Char
  | '"' :: '"' :: '"' :: cs => ['\\', '"', '\\', '"', '\\', '"'] ++ longBody cs
  | '\\' :: cs => '\\' :: '\\' :: longBody cs
  | '\r' :: cs => '\\' :: 'r' :: longBody cs
  | c :: cs => c :: longBody cs
  | [] => []

/-- Puts a backslash before a quote at the end that has none. -/
def protectLast (cs : List Char) : List Char :=
  match cs.reverse with
  | '"' :: '\\' :: _ => cs
  | '"' :: rest => rest.reverse ++ ['\\', '"']
  | _ => cs

/-- The text in quotes: three of them when it has a line end. -/
def quotedLexical (cs : List Char) : List Char :=
  if cs.contains '\n' then "\"\"\"".toList ++ protectLast (longBody cs) ++ "\"\"\"".toList
  else '"' :: escape cs ++ ['"']

/-- Whether the datatype has infinities and a value that is no number. -/
def isFloatingType (iri : String) : Bool :=
  iri = datatype "double" || iri = datatype "float" || iri = datatype "decimal"

/-- The quoted text with the datatype's own words for the values that are no finite numbers. -/
def numberWords (iri lexical : String) (cs : List Char) : List Char :=
  if isFloatingType iri then
    match Binary64.read? lexical with
    | some (.infinite _) => replaceAll "Infinity" "INF" (replaceAll "inf" "INF" cs)
    | some .notANumber => replaceAll "nan" "NaN" cs
    | _ => cs
  else cs

/-- The literal as a query writes it. -/
def Literal.render (l : Literal) : String :=
  let body := quotedLexical l.lexical.toList
  match l.qualifier with
  | .none => String.ofList body
  | .language tag => String.ofList body ++ "@" ++ tag
  | .datatype iri =>
    let body := String.ofList (numberWords iri l.lexical body)
    if iri = "" then body else body ++ "^^<" ++ iri ++ ">"

end PointOfFocus.Rdf
