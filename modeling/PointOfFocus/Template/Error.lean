import PointOfFocus.Data.Value
import PointOfFocus.Rdf.Term
import PointOfFocus.Text.Backslash

/-!
# What can be wrong with a template

A template can be wrong as a text, which is found when it is read, or it can fail on the values that it is filled
with.
-/

namespace PointOfFocus.Template

open PointOfFocus.Rdf
open PointOfFocus.Text (quoted BackslashFault)

/-- Why a text is no template. -/
inductive Cause where
  /-- No token of a tag starts with the character at the offset. -/
  | unexpectedCharacter (c : Char) (offset : Nat)
  /-- A name has a character that no identifier has. -/
  | badIdentifier
  /-- A backslash in a quoted text has no meaning. -/
  | escape (cause : BackslashFault)
  /-- A closing bracket in a tag has no opening one. -/
  | unexpectedBracket (closing : Char)
  /-- A closing bracket in a tag does not match the opening one. -/
  | wrongBracket (closing awaited : Char)
  /-- A comment has no end. -/
  | unterminatedComment
  /-- A part that is not to be read has no end. -/
  | unterminatedRaw
  /-- Something stands where a value should start. -/
  | unexpected (found : String)
  /-- Something else was found than what is described. -/
  | expected (what found : String)
  /-- The template ends before what is described. -/
  | ended (what : String)
  /-- A tag lacks an expression. -/
  | missingExpression (found : String)
  /-- A point is followed by neither a name nor a number. -/
  | missingMember
  /-- The arguments of a call stand in the wrong order. -/
  | badArguments
  /-- One test stands right after another. -/
  | chainedTests
  /-- An expression of the given kind cannot be given a value. -/
  | notAssignable (kind : String)
  /-- The name of a loop's progress cannot be given a value. -/
  | loopAssigned
  /-- A tag lacks its name. -/
  | missingName
  /-- A tag has an unknown name, where one of the given tags is awaited inside the given block. -/
  | unknownTag (name : String) (awaited outer : List String) (block : Option String)
  /-- The template ends where one of the given tags is awaited inside the given block. -/
  | unclosed (awaited : List String) (block : Option String)
  /-- There is no filter of the name. -/
  | unknownFilter (name : String)
  /-- There is no test of the name. -/
  | unknownTest (name : String)
  /-- The template is nested more deeply than its length allows, which no template is. -/
  | tooDeep

/-- The tags that are awaited, as a choice. -/
def choice (tags : List String) : String :=
  " or ".intercalate (tags.map quoted)

/-- The end of a message about the block that is open. -/
def innermost : Option String → String
  | none => ""
  | some block => " The innermost block that needs to be closed is " ++ quoted block ++ "."

/-- The part of a message about the tags that are awaited. -/
def lookingFor (awaited : List String) : String :=
  if awaited.isEmpty then "" else " Jinja was looking for the following tags: " ++ choice awaited ++ "."

/-- The wording of a cause. -/
def Cause.message : Cause → String
  | .unexpectedCharacter c offset =>
    "unexpected char " ++ quoted (String.singleton c) ++ " at " ++ offset.repr
  | .badIdentifier => "Invalid character in identifier"
  | .escape cause => cause.message
  | .unexpectedBracket closing => "unexpected '" ++ String.singleton closing ++ "'"
  | .wrongBracket closing awaited =>
    "unexpected '" ++ String.singleton closing ++ "', expected '" ++ String.singleton awaited ++ "'"
  | .unterminatedComment => "Missing end of comment tag"
  | .unterminatedRaw => "Missing end of raw directive"
  | .unexpected found => "unexpected " ++ quoted found
  | .expected what found => "expected token " ++ quoted what ++ ", got " ++ quoted found
  | .ended what => "unexpected end of template, expected " ++ quoted what ++ "."
  | .missingExpression found => "Expected an expression, got " ++ quoted found
  | .missingMember => "expected name or number"
  | .badArguments => "invalid syntax for function call expression"
  | .chainedTests => "You cannot chain multiple tests with is"
  | .notAssignable kind => "can't assign to " ++ quoted kind
  | .loopAssigned => "Can't assign to special loop variable in for-loop target"
  | .missingName => "tag name expected"
  | .unknownTag name awaited outer block =>
    let start := "Encountered unknown tag " ++ quoted name ++ "."
    let middle :=
      if !awaited.isEmpty && outer.contains name then
        " You probably made a nesting mistake. Jinja is expecting this tag, but currently looking for "
          ++ choice awaited ++ "."
      else lookingFor awaited
    start ++ middle ++ innermost block
  | .unclosed awaited block => "Unexpected end of template." ++ lookingFor awaited ++ innermost block
  | .unknownFilter name => "No filter named " ++ quoted name ++ "."
  | .unknownTest name => "No test named " ++ quoted name ++ "."
  | .tooDeep => "Too deeply nested"

/-- A fault of a template and the line of its text where it was found. -/
structure Fault where
  /-- The line, counted from one. -/
  line : Nat
  /-- What is wrong. -/
  cause : Cause

/-- The wording of the fault. -/
def Fault.message (f : Fault) : String :=
  "Invalid recommendation template (line " ++ f.line.repr ++ "): " ++ f.cause.message

/-! ### Faults in filling -/

/-- A value of the wrong type, or arguments that do not fit. -/
inductive Misuse where
  /-- A value of the type has no items. -/
  | notIterable (type : String)
  /-- A value of the type has no items that could be counted from the end. -/
  | notReversible (type : String)
  /-- A value of the type has no items to unpack. -/
  | notUnpackable (type : String)
  /-- A value of the type has no length. -/
  | noLength (type : String)
  /-- A value of the type has no parts. -/
  | notSubscriptable (type : String)
  /-- A value of the type cannot be called. -/
  | notCallable (type : String)
  /-- A value of the type is no key. -/
  | unhashable (type : String)
  /-- An operator does not take operands of the types. -/
  | operands (symbol left right : String)
  /-- A sign does not go before a value of the type. -/
  | operand (symbol type : String)
  /-- A value of the type cannot be put after one of the first type. -/
  | concatenation (type other : String)
  /-- A sequence cannot be repeated by a value of the type. -/
  | repetition (type : String)
  /-- Values of the types are not ordered. -/
  | order (symbol left right : String)
  /-- A value of the type contains nothing. -/
  | noContainer (type : String)
  /-- A value of the type is not sought in a text. -/
  | notSoughtInText (type : String)
  /-- A value of the type is no place in a sequence. -/
  | sliceIndex
  /-- A function takes exactly one argument. -/
  | oneArgument (function : String) (given : Nat)
  /-- A function takes no arguments. -/
  | noArguments (function : String) (given : Nat)
  /-- A function takes no arguments with names. -/
  | noNames (function : String)
  /-- A function takes from so many to so many arguments. -/
  | argumentCount (function : String) (least most given : Nat)
  /-- A function takes at least so many arguments. -/
  | tooFewArguments (function : String) (least given : Nat)
  /-- A function takes at most so many arguments. -/
  | tooManyArguments (function : String) (most given : Nat)
  /-- A function takes no argument of the name. -/
  | unknownArgument (function name : String)
  /-- A function got an argument twice. -/
  | repeatedArgument (function name : String)
  /-- A function needs arguments of the names. -/
  | missingArguments (function : String) (names : List String)
  /-- A loop has nothing to choose from. -/
  | emptyCycle
  /-- A value of the type is no integer. -/
  | notInteger (type : String)

/-- The names of missing arguments as an enumeration. -/
def enumeration : List String → String
  | [] => ""
  | [a] => quoted a
  | [a, b] => quoted a ++ " and " ++ quoted b
  | names => ", ".intercalate (names.dropLast.map quoted) ++ ", and " ++ quoted (names.getLastD "")

/-- The wording of the fault. -/
def Misuse.message : Misuse → String
  | .notIterable type => "'" ++ type ++ "' object is not iterable"
  | .notReversible type => "'" ++ type ++ "' object is not reversible"
  | .notUnpackable type => "cannot unpack non-iterable " ++ type ++ " object"
  | .noLength type => "object of type '" ++ type ++ "' has no len()"
  | .notSubscriptable type => "'" ++ type ++ "' object is not subscriptable"
  | .notCallable type => "'" ++ type ++ "' object is not callable"
  | .unhashable type => "unhashable type: '" ++ type ++ "'"
  | .operands symbol left right =>
    "unsupported operand type(s) for " ++ symbol ++ ": '" ++ left ++ "' and '" ++ right ++ "'"
  | .operand symbol type => "bad operand type for unary " ++ symbol ++ ": '" ++ type ++ "'"
  | .concatenation type other => "can only concatenate " ++ type ++ " (not \"" ++ other ++ "\") to " ++ type
  | .repetition type => "can't multiply sequence by non-int of type '" ++ type ++ "'"
  | .order symbol left right =>
    "'" ++ symbol ++ "' not supported between instances of '" ++ left ++ "' and '" ++ right ++ "'"
  | .noContainer type => "argument of type '" ++ type ++ "' is not iterable"
  | .notSoughtInText type => "'in <string>' requires string as left operand, not " ++ type
  | .sliceIndex => "slice indices must be integers or None or have an __index__ method"
  | .oneArgument function given => function ++ "() takes exactly one argument (" ++ given.repr ++ " given)"
  | .noArguments function given => function ++ "() takes no arguments (" ++ given.repr ++ " given)"
  | .noNames function => function ++ "() takes no keyword arguments"
  | .argumentCount function least most given =>
    let range := if least = most then most.repr else "from " ++ least.repr ++ " to " ++ most.repr
    let noun := if most = 1 && least = most then " positional argument but " else " positional arguments but "
    function ++ "() takes " ++ range ++ noun ++ given.repr ++ (if given = 1 then " was given" else " were given")
  | .tooFewArguments function least given =>
    function ++ " expected at least " ++ least.repr ++ (if least = 1 then " argument" else " arguments") ++ ", got "
      ++ given.repr
  | .tooManyArguments function most given =>
    function ++ " expected at most " ++ most.repr ++ (if most = 1 then " argument" else " arguments") ++ ", got "
      ++ given.repr
  | .unknownArgument function name => function ++ "() got an unexpected keyword argument '" ++ name ++ "'"
  | .repeatedArgument function name => function ++ "() got multiple values for argument '" ++ name ++ "'"
  | .missingArguments function names =>
    function ++ "() missing " ++ names.length.repr ++ " required positional argument"
      ++ (if names.length = 1 then "" else "s") ++ ": " ++ enumeration names
  | .emptyCycle => "no items for cycling given"
  | .notInteger type => "'" ++ type ++ "' object cannot be interpreted as an integer"

/-- Why a template cannot be filled. -/
inductive RenderError where
  /-- A value is used that is not defined. -/
  | undefined (message : String)
  /-- A term cannot be written. -/
  | term (cause : TermError)
  /-- There is no filter of the name. -/
  | unknownFilter (name : String)
  /-- There is no test of the name. -/
  | unknownTest (name : String)
  /-- A part of a value is set that cannot be. -/
  | notSettable
  /-- A value has the wrong type, or arguments do not fit. -/
  | misuse (cause : Misuse)
  /-- A value of the type lacks a part that is always there in a text. -/
  | noPart (type part : String)
  /-- There are fewer items than names for them. -/
  | tooFewItems (names items : Nat)
  /-- There are more items than names for them. -/
  | tooManyItems (names : Nat)
  /-- A range or a part of a sequence has no step. -/
  | noStep (what : String)
  /-- A separator is empty. -/
  | emptySeparator
  /-- A number is divided by zero. -/
  | divisionByZero (message : String)
  /-- A number is too large. -/
  | tooLarge (message : String)
  /-- A number cannot be read or is out of range. -/
  | number (cause : Data.Value.NumberError)

/-- The wording of the fault. -/
def RenderError.message : RenderError → String
  | .undefined message => message
  | .term cause => cause.message
  | .unknownFilter name => "No filter named " ++ quoted name ++ " found."
  | .unknownTest name => "No test named " ++ quoted name ++ " found."
  | .notSettable => "cannot assign attribute on non-namespace object"
  | .misuse cause => cause.message
  | .noPart type part => "'" ++ type ++ "' object has no attribute " ++ quoted part
  | .tooFewItems names items =>
    "not enough values to unpack (expected " ++ names.repr ++ ", got " ++ items.repr ++ ")"
  | .tooManyItems names => "too many values to unpack (expected " ++ names.repr ++ ")"
  | .noStep what => what
  | .emptySeparator => "empty separator"
  | .divisionByZero message => message
  | .tooLarge message => message
  | .number cause => cause.message

end PointOfFocus.Template
