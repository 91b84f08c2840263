import PointOfFocus.Data.Value

/-!
# The shape of values

Query results are read by name out of nested mappings. Where a value of another type stands in the place of a
mapping, reading stops with a fault that names the type.
-/

namespace PointOfFocus.Data

/-- Why a value cannot be read as a mapping or a text. -/
inductive ShapeError where
  /-- A value of the type has no entries to look up. -/
  | noEntries (type : String)
  /-- A value of the type holds nothing that could be sought. -/
  | noMembers (type : String)
  /-- A text has no entries by name. -/
  | textIndex
  /-- A list has no entries by name. -/
  | listIndex
  /-- A value of the type stands for a text. -/
  | notText (type : String)
deriving DecidableEq

/-- The wording of the fault. -/
def ShapeError.message : ShapeError → String
  | .noEntries type => "'" ++ type ++ "' object has no attribute 'get'"
  | .noMembers type => "argument of type '" ++ type ++ "' is not iterable"
  | .textIndex => "string indices must be integers, not 'str'"
  | .listIndex => "list indices must be integers or slices, not str"
  | .notText type => "expected string or bytes-like object, got '" ++ type ++ "'"

/-- Whether the pattern occurs in the text. -/
def occursIn (pattern : List Char) : List Char → Bool
  | [] => pattern.isEmpty
  | c :: cs => pattern.isPrefixOf (c :: cs) || occursIn pattern cs

namespace Value

/-- The entry of a mapping with the given name. -/
def lookUp (key : String) : Value → Except ShapeError (Option Value)
  | .dict entries => .ok (valueOf? entries key)
  | v => .error (.noEntries v.typeName)

/-- Whether the value is the given text. -/
def isText (s : String) : Value → Bool
  | .text t => t = s
  | _ => false

/-- What a value holds under a name. Texts and lists that do not mention the name hold nothing; those that do cannot
be read by name. -/
def member (key : String) : Value → Except ShapeError (Option Value)
  | .dict entries => .ok (valueOf? entries key)
  | .list items => if items.any (isText key) then .error .listIndex else .ok none
  | .text s => if occursIn key.toList s.toList then .error .textIndex else .ok none
  | v => .error (.noMembers v.typeName)

end Value

end PointOfFocus.Data
