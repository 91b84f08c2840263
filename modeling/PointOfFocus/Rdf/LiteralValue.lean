import PointOfFocus.Calendar.Duration
import PointOfFocus.Data.Binary
import PointOfFocus.Data.Xml
import PointOfFocus.Number.Shortest
import PointOfFocus.Rdf.Vocabulary

/-!
# Values of literals

A standard datatype says which value a text denotes and which text stands for a value, so that reading and writing
brings all texts of one value to one form. A text that denotes no value of its datatype has none.
-/

namespace PointOfFocus.Rdf

open PointOfFocus.Calendar
open PointOfFocus.Data
open PointOfFocus.Number
open PointOfFocus.Text

/-- What a literal denotes. -/
inductive LiteralValue where
  /-- A text. -/
  | text (s : String)
  /-- An integer. -/
  | int (i : Int)
  /-- A decimal number. -/
  | decimal (d : Decimal)
  /-- A floating-point number. -/
  | float (x : Binary64)
  /-- A truth value. -/
  | bool (b : Bool)
  /-- A date, of which a datatype may use the year and the month only. -/
  | date (d : Date)
  /-- A time of day. -/
  | time (c : Clock)
  /-- A moment. -/
  | moment (m : Moment)
  /-- A span of time. -/
  | duration (d : Duration)
  /-- Bytes. -/
  | bytes (bs : List Nat)
  /-- A fragment of markup. -/
  | markup (nodes : List Xml.Node)

/-! ### Dates of the datatypes -/

/-- The text without a letter `Z` at its end. -/
def dropZulu (cs : List Char) : List Char :=
  if cs.getLast? = some 'Z' || cs.getLast? = some 'z' then cs.dropLast else cs

/-- Drops a distance from universal time at the end: what follows the last plus sign, or what follows the last dash if
it has a colon. -/
def dropOffset (cs : List Char) : List Char :=
  let behindPlus := cs.reverse.takeWhile (· ≠ '+')
  let beforePlus := cs.take (cs.length - behindPlus.length - 1)
  if cs.contains '+' && !beforePlus.isEmpty then beforePlus
  else
    let behindDash := cs.reverse.takeWhile (· ≠ '-')
    if cs.contains '-' && behindDash.contains ':' then cs.take (cs.length - behindDash.length - 1) else cs

/-- The text without the dash that it starts with, and whether there is one. -/
def splitDash : List Char → Bool × List Char
  | '-' :: cs => (true, cs)
  | cs => (false, cs)

/-- Reads a date. A time or a distance from universal time after it is overlooked. -/
def readDate? (text : String) : Option Date :=
  let (negative, cs) := splitDash (dropZulu text.toList)
  let cs := if cs.contains 'T' then cs.takeWhile (· ≠ 'T') else dropOffset cs
  if negative || !cs.contains '-' then none else Date.ofText? (String.ofList cs)

/-- The number that a text writes, leading zeros being dropped first. -/
def readCount? (negative : Bool) (cs : List Char) : Option Nat := do
  let digits := cs.dropWhile (· = '0')
  let i ← (readInteger (String.ofList (if negative then '-' :: digits else digits))).toOption
  if i < 0 then none else some i.toNat

/-- The date with the given parts, if the calendar has it. -/
def dateOf? (year month day : Nat) : Option Date :=
  let date : Date := ⟨year, month, day⟩
  if date.isValid then some date else none

/-- Reads a year, as its first day. -/
def readYear? (text : String) : Option Date := do
  let (negative, cs) := splitDash (dropZulu text.toList)
  let cs := dropOffset cs
  if cs.length < 4 then none
  dateOf? (← readCount? negative cs) 1 1

/-- Reads a year and a month, as their first day. -/
def readMonth? (text : String) : Option Date := do
  let (negative, cs) := splitDash (dropZulu text.toList)
  let cs := dropOffset cs
  let year := cs.takeWhile (· ≠ '-')
  let month := (cs.dropWhile (· ≠ '-')).drop 1
  if year.length < 4 || month.length < 2 then none
  dateOf? (← readCount? negative year) (← readCount? false month) 1

namespace LiteralValue

/-- The names of the datatypes whose values are integers. -/
def integerTypes : List String :=
  ["integer", "nonPositiveInteger", "negativeInteger", "long", "int", "short", "byte", "nonNegativeInteger",
    "unsignedLong", "unsignedInt", "unsignedShort", "unsignedByte", "positiveInteger"]

/-- The names of the datatypes whose values are texts. -/
def textTypes : List String :=
  ["string", "normalizedString", "token", "language", "anyURI"]

/-- The truth value that a text stands for. -/
def truth (text : String) : Bool :=
  let word := lowerAscii text.toList
  word = ['1'] || word = "true".toList

/-- The value of a text of the standard datatype with the given name. -/
def readStandard? (type text : String) : Option LiteralValue :=
  if integerTypes.contains type then (readInteger text).toOption.map .int
  else if textTypes.contains type then some (.text text)
  else match type with
    | "decimal" => (Decimal.read? text).map .decimal
    | "double" | "float" => (Binary64.read? text).map .float
    | "boolean" => some (.bool (truth text))
    | "date" => (readDate? text).map .date
    | "dateTime" => (Moment.ofText? text).map .moment
    | "time" => (Clock.ofText? text).map .time
    | "duration" | "dayTimeDuration" | "yearMonthDuration" => (Duration.ofText? text).map .duration
    | "gYear" => (readYear? text).map .date
    | "gYearMonth" => (readMonth? text).map .date
    | "hexBinary" => (hexBytes? text.toList).map .bytes
    | "base64Binary" => (base64Bytes? text.toList).map .bytes
    | _ => none

/-- The name of a standard datatype. -/
def datatypeName? (iri : String) : Option String :=
  if datatypeNamespace.toList.isPrefixOf iri.toList then
    some (String.ofList (iri.toList.drop datatypeNamespace.length))
  else none

/-- The value of a text of a datatype. -/
def read? (iri text : String) : Option LiteralValue :=
  if iri = markupIri then (Xml.read? text).map .markup
  else (datatypeName? iri).bind (readStandard? · text)

/-- The text that stands for a value of a datatype. -/
def lexical (iri : String) : LiteralValue → String
  | .text s => s
  | .int i => integerText i
  | .decimal d => d.plain
  | .float x => x.text
  | .bool b => if b then "true" else "false"
  | .date d =>
    if iri = datatype "gYear" then padded 4 d.year
    else if iri = datatype "gYearMonth" then padded 4 d.year ++ "-" ++ padded 2 d.month
    else d.text
  | .time c => c.text
  | .moment m => m.text
  | .duration d => d.text
  | .bytes bs => if iri = datatype "hexBinary" then hexText bs else base64Text bs
  | .markup nodes => String.ofList (Xml.writeNodes nodes)

/-- Whether the value counts as true: it is neither false, zero nor empty. -/
def isTrue : LiteralValue → Bool
  | .text s => s ≠ ""
  | .int i => i ≠ 0
  | .decimal d => !d.isZero
  | .float x => !x.isZero
  | .bool b => b
  | .duration d => d.isTrue
  | .bytes bs => !bs.isEmpty
  | .date _ | .time _ | .moment _ | .markup _ => true

end LiteralValue

end PointOfFocus.Rdf
