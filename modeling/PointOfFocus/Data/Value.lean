import PointOfFocus.Calendar.Moment
import PointOfFocus.Data.Binary
import PointOfFocus.Number.Shortest

/-!
# Data values

The values that configuration files and query results are made of: scalars, lists, and mappings whose entries
keep the order in which they were first written. Nearly all mappings have names as keys; the few that have not are
kept apart. Every value has a text, counts as true or false, and has a name for its type that messages use.
-/

namespace PointOfFocus.Data

open PointOfFocus.Calendar
open PointOfFocus.Number
open PointOfFocus.Text (quoted)

/-- A value of a data file. -/
inductive Value where
  /-- The absent value. -/
  | null
  /-- A truth value. -/
  | bool (b : Bool)
  /-- An integer of any size. -/
  | int (i : Int)
  /-- A floating-point number. -/
  | float (x : Binary64)
  /-- A text. -/
  | text (s : String)
  /-- A list of values. -/
  | list (items : List Value)
  /-- A mapping from names to values, with its entries in order. -/
  | dict (entries : List (String × Value))
  /-- A mapping some of whose keys are no names. -/
  | mapping (entries : List (Value × Value))
  /-- Bytes. -/
  | bytes (bs : List Nat)
  /-- A date. -/
  | date (d : Date)
  /-- A moment. -/
  | moment (m : Moment)
  /-- A pair or another group of fixed size. -/
  | tuple (items : List Value)
  /-- A set, with its members in the order in which they were put in. -/
  | set (items : List Value)

instance : Inhabited Value := ⟨.null⟩

/-- Sets a name's value: in place if the name is there, else at the end. -/
def setEntry {α : Type} (entries : List (String × α)) (key : String) (value : α) : List (String × α) :=
  if entries.any (·.1 = key) then entries.map fun entry => if entry.1 = key then (key, value) else entry
  else entries ++ [(key, value)]

/-- The value of a name in a list of entries. -/
def valueOf? {α : Type} (entries : List (String × α)) (key : String) : Option α :=
  (entries.find? (·.1 = key)).map (·.2)

namespace Value

/-- The entries of a mapping that have names. -/
def entries? : Value → Option (List (String × Value))
  | .dict entries => some entries
  | .mapping entries => some (entries.filterMap fun
      | (.text key, v) => some (key, v)
      | _ => none)
  | _ => none

/-- The value of a name, if the value is a mapping that has it. -/
def get? (key : String) : Value → Option Value
  | .dict entries => valueOf? entries key
  | _ => none

/-- Whether the value counts as true: it is neither absent, false, zero nor empty. -/
def isTrue : Value → Bool
  | .null => false
  | .bool b => b
  | .int i => i ≠ 0
  | .float x => !x.isZero
  | .text s => s ≠ ""
  | .list items => !items.isEmpty
  | .dict entries => !entries.isEmpty
  | .mapping entries => !entries.isEmpty
  | .bytes bs => !bs.isEmpty
  | .date _ | .moment _ => true
  | .tuple items | .set items => !items.isEmpty

/-- The name of the value's type. -/
def typeName : Value → String
  | .null => "NoneType"
  | .bool _ => "bool"
  | .int _ => "int"
  | .float _ => "float"
  | .text _ => "str"
  | .list _ => "list"
  | .dict _ | .mapping _ => "dict"
  | .bytes _ => "bytes"
  | .date _ => "datetime.date"
  | .moment _ => "datetime.datetime"
  | .tuple _ => "tuple"
  | .set _ => "set"

/-- Numbers as the arguments of a call. -/
def arguments (ns : List Nat) : String := ", ".intercalate (ns.map Nat.repr)

/-- A distance in time as it stands inside another value's text: days, seconds and millionths of a second, of which only
the days can be negative. -/
def innerDistance (micros : Int) : String :=
  let days := Int.fdiv micros microsPerDay
  let rest := (micros - days * microsPerDay).toNat
  let parts := [("days", days), ("seconds", ((rest / 1000000 : Nat) : Int)),
    ("microseconds", ((rest % 1000000 : Nat) : Int))]
  let written := parts.filterMap fun (name, n) => if n = 0 then none else some (name ++ "=" ++ integerText n)
  "datetime.timedelta(" ++ (if written.isEmpty then "0" else ", ".intercalate written) ++ ")"

/-- A distance from universal time as it stands inside another value's text. -/
def innerOffset (micros : Int) : String :=
  if micros = 0 then "datetime.timezone.utc" else "datetime.timezone(" ++ innerDistance micros ++ ")"

/-- A moment as it stands inside another value's text. Seconds that are zero are left out. -/
def innerMoment (m : Moment) : String :=
  let t := m.clock.time
  let seconds := if t.micro ≠ 0 then [t.second, t.micro] else if t.second ≠ 0 then [t.second] else []
  "datetime.datetime(" ++ arguments ([m.date.year, m.date.month, m.date.day, t.hour, t.minute] ++ seconds)
    ++ ((m.clock.offset.map fun micros => ", tzinfo=" ++ innerOffset micros).getD "") ++ ")"

mutual

/-- The value as it stands inside another value's text: texts are quoted. -/
def inner : Value → String
  | .null => "None"
  | .bool b => if b then "True" else "False"
  | .int i => integerText i
  | .float x => x.text
  | .text s => quoted s
  | .list items => "[" ++ ", ".intercalate (innerItems items) ++ "]"
  | .dict entries => "\x7b" ++ ", ".intercalate (innerEntries entries) ++ "\x7d"
  | .mapping entries => "\x7b" ++ ", ".intercalate (innerPairs entries) ++ "\x7d"
  | .bytes bs => quotedBytes bs
  | .date d => "datetime.date(" ++ arguments [d.year, d.month, d.day] ++ ")"
  | .moment m => innerMoment m
  | .tuple [v] => "(" ++ v.inner ++ ",)"
  | .tuple items => "(" ++ ", ".intercalate (innerItems items) ++ ")"
  | .set [] => "set()"
  | .set items => "\x7b" ++ ", ".intercalate (innerItems items) ++ "\x7d"

/-- The items of a list, each as it stands inside the list. -/
def innerItems : List Value → List String
  | [] => []
  | v :: vs => v.inner :: innerItems vs

/-- The entries of a mapping, each as it stands inside the mapping. -/
def innerEntries : List (String × Value) → List String
  | [] => []
  | (key, v) :: rest => (quoted key ++ ": " ++ v.inner) :: innerEntries rest

/-- The entries of a mapping with keys of any kind, each as it stands inside the mapping. -/
def innerPairs : List (Value × Value) → List String
  | [] => []
  | (key, v) :: rest => (key.inner ++ ": " ++ v.inner) :: innerPairs rest

end

/-- The value's text: a text, a date and a moment stand for themselves. -/
def toText : Value → String
  | .text s => s
  | .date d => d.text
  | .moment m => m.textWith " "
  | v => v.inner

mutual

/-- Whether every integer in the value is short enough to be written. -/
def isWritable : Value → Bool
  | .int i => isShort i
  | .list items | .tuple items | .set items => areWritable items
  | .dict entries => entriesAreWritable entries
  | .mapping entries => pairsAreWritable entries
  | _ => true

/-- Whether every integer in the items of a list is short enough. -/
def areWritable : List Value → Bool
  | [] => true
  | v :: vs => v.isWritable && areWritable vs

/-- Whether every integer in the entries of a mapping is short enough. -/
def entriesAreWritable : List (String × Value) → Bool
  | [] => true
  | (_, v) :: rest => v.isWritable && entriesAreWritable rest

/-- Whether every integer in the entries of a mapping with keys of any kind is short enough. -/
def pairsAreWritable : List (Value × Value) → Bool
  | [] => true
  | (key, v) :: rest => key.isWritable && v.isWritable && pairsAreWritable rest

end

/-! ### Keys -/

/-- The texts of the keys of a mapping. -/
def keyTexts : Value → List String
  | .dict entries => entries.map (·.1)
  | .mapping entries => entries.map (·.1.toText)
  | _ => []

/-- The number that a value is, as a fraction; truth values are numbers. -/
def fraction? : Value → Option (Int × Nat)
  | .bool b => some (if b then 1 else 0, 1)
  | .int i => some (i, 1)
  | .float (.finite negative mantissa exponent) =>
    let (num, den) := scaled 2 mantissa 1 exponent
    some (signed negative num, den)
  | _ => none

/-- Whether two values are the same key: equal numbers are, whatever their types. -/
def isSameKey (a b : Value) : Bool :=
  match a.fraction?, b.fraction? with
  | some (n₁, d₁), some (n₂, d₂) => n₁ * d₂ = n₂ * d₁
  | none, none =>
    match a, b with
    | .null, .null => true
    | .text s, .text t => s = t
    | .float x, .float y => x = y
    | .bytes x, .bytes y => x = y
    | .date x, .date y => x = y
    | .moment x, .moment y => x = y
    | _, _ => false
  | _, _ => false

/-- Sets the value of a key: in place if the key is there, else at the end. -/
def setPair (entries : List (Value × Value)) (key value : Value) : List (Value × Value) :=
  if entries.any (·.1.isSameKey key) then
    entries.map fun entry => if entry.1.isSameKey key then (entry.1, value) else entry
  else entries ++ [(key, value)]

/-- The names among the keys, if all keys are names. -/
def named? : List (Value × Value) → Option (List (String × Value))
  | [] => some []
  | (.text key, v) :: rest => (named? rest).map ((key, v) :: ·)
  | _ => none

/-- The mapping with the given entries, of which a later one counts if two have the same key. -/
def ofPairs (pairs : List (Value × Value)) : Value :=
  let entries := pairs.foldl (fun entries pair => setPair entries pair.1 pair.2) []
  ((named? entries).map .dict).getD (.mapping entries)

/-! ### Conversion to numbers -/

/-- Why a value cannot be read as a number, or be written because of a number in it. -/
inductive NumberError where
  /-- The value is of a type that has no integer. -/
  | noInteger (typeName : String)
  /-- The value is of a type that has no floating-point number. -/
  | noFloat (typeName : String)
  /-- The text is no integer. -/
  | integer (cause : IntegerError)
  /-- The text is no floating-point number. -/
  | float (text : String)
  /-- An infinity has no integer. -/
  | infinity
  /-- The value that is no number has no integer. -/
  | undefined
  /-- The integer lies outside the floating-point range. -/
  | outOfRange
  /-- The bytes write no integer. -/
  | integerBytes (bs : List Nat)
  /-- The bytes write no floating-point number. -/
  | floatBytes (bs : List Nat)
  /-- An integer has too many digits to be written. -/
  | unwritable

/-- The wording of the fault. -/
def NumberError.message : NumberError → String
  | .noInteger type =>
    "int() argument must be a string, a bytes-like object or a real number, not '" ++ type ++ "'"
  | .noFloat type => "float() argument must be a string or a real number, not '" ++ type ++ "'"
  | .integer cause => cause.message
  | .float s => notANumberMessage s
  | .infinity => "cannot convert float infinity to integer"
  | .undefined => "cannot convert float NaN to integer"
  | .outOfRange => "int too large to convert to float"
  | .integerBytes bs => "invalid literal for int() with base 10: " ++ quotedBytes bs
  | .floatBytes bs => "could not convert string to float: " ++ quotedBytes bs
  | .unwritable => WriteError.tooManyDigits.message

/-- Whether the number lies outside a range, in contrast to a value that is no number at all. -/
def NumberError.isOverflow : NumberError → Bool
  | .infinity | .outOfRange => true
  | _ => false

/-- The value's text, unless an integer in it has too many digits. -/
def write (v : Value) : Except NumberError String :=
  if v.isWritable then .ok v.toText else .error .unwritable

/-- The ASCII text that bytes write. -/
def asciiText? (bs : List Nat) : Option String :=
  if bs.all (· < 128) then some (String.ofList (bs.map Char.ofNat)) else none

/-- The value as an integer: truth values count as one and zero, fractions are cut off, texts are read. -/
def toInteger : Value → Except NumberError Int
  | .bool b => .ok (if b then 1 else 0)
  | .int i => .ok i
  | .float .notANumber => .error .undefined
  | .float x => match x.truncate? with
    | some i => .ok i
    | none => .error .infinity
  | .text s => (readInteger s).mapError .integer
  | .bytes bs => match (asciiText? bs).bind fun s => (readInteger s).toOption with
    | some i => .ok i
    | none => .error (.integerBytes bs)
  | v => .error (.noInteger v.typeName)

/-- The value as a floating-point number. -/
def toFloat : Value → Except NumberError Binary64
  | .bool b => .ok (Binary64.ofInt (if b then 1 else 0))
  | .int i => match Binary64.ofInt i with
    | .infinite _ => .error .outOfRange
    | x => .ok x
  | .float x => .ok x
  | .text s => match Binary64.read? s with
    | some x => .ok x
    | none => .error (.float s)
  | .bytes bs => match (asciiText? bs).bind Binary64.read? with
    | some x => .ok x
    | none => .error (.floatBytes bs)
  | v => .error (.noFloat v.typeName)

end Value

end PointOfFocus.Data
