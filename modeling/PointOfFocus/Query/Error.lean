import PointOfFocus.Query.Tokenize
import PointOfFocus.Scope.Basic
import PointOfFocus.Text.Escape
import PointOfFocus.Text.Position
import PointOfFocus.Text.Quoted

/-!
# What can be wrong with a query

Every fault of a query has a cause and an offset into the text. Three faults have no offset: an escape that names
no character, the length of a path that is too long a number, and a pattern that lacks a part.
-/

namespace PointOfFocus.Query

open PointOfFocus.Number
open PointOfFocus.Text

/-- The place of a term in a triple pattern. -/
inductive Role where
  | subject | predicate | object
deriving DecidableEq

/-- The name of the place. -/
def Role.text : Role → String
  | .subject => "subject"
  | .predicate => "predicate"
  | .object => "object"

/-- The causes of a fault that has an offset. -/
inductive Cause where
  /-- No token starts with the character. -/
  | unexpectedCharacter (c : Char)
  /-- Something else was found than what is described. -/
  | expected (what : String) (found : Token)
  /-- A query must say what it selects. -/
  | missingProjection
  /-- The query goes on after its pattern. -/
  | afterPattern (found : Token)
  /-- A modifier needs a condition. -/
  | missingCondition
  /-- Queries inside queries are not read. -/
  | subQuery
  /-- A group has no end. -/
  | unterminatedGroup
  /-- A bracket has no closing one. -/
  | unbalanced (opening : String)
  /-- A closing bracket has no opening one. -/
  | unexpectedClosing (closing : String)
  /-- A declared label has characters after its colon. -/
  | badLabel (text : String)
  /-- The keyword must be followed by a variable or an IRI. -/
  | missingGraphName (keyword : String)
  /-- A binding needs an expression. -/
  | missingBinding
  /-- A block of values needs variables. -/
  | missingVariables
  /-- A block of values needs its values. -/
  | missingValues
  /-- A test for existence needs a group. -/
  | missingGroup
  /-- A filter needs a constraint. -/
  | missingConstraint
  /-- A blank node in brackets needs a predicate. -/
  | missingPredicate
  /-- A collection has no end. -/
  | unterminatedCollection
  /-- Repeated paths are not read. -/
  | repetition
  /-- Negated property sets are not read. -/
  | negation
  /-- The mark for a datatype needs an IRI. -/
  | missingDatatype
  /-- A sign needs a number. -/
  | missingNumber (sign : String)
  /-- A query has one point of focus. -/
  | secondFocus
  /-- Only a predicate has a path length. -/
  | misplacedPathLength
  /-- A path has at least one predicate. -/
  | zeroPathLength
  /-- The label of a prefixed name is not declared. -/
  | unresolvedPrefix (label : String)
  /-- The query is nested more deeply than its length allows, which no query is. -/
  | tooDeep
deriving DecidableEq

/-- How a message names a token. -/
def Token.describe (t : Token) : String :=
  if t.kind = .eof then "end of input" else quoted t.text

/-- The wording of a cause. -/
def Cause.message : Cause → String
  | .unexpectedCharacter c => "Unexpected character " ++ quoted (String.singleton c)
  | .expected what found => "Expected " ++ what ++ " but found " ++ found.describe
  | .missingProjection => "Expected '*' or a projection after SELECT"
  | .afterPattern found => "Unexpected " ++ found.describe ++ " after the query pattern"
  | .missingCondition => "Expected a condition"
  | .subQuery => "Sub-queries are not supported"
  | .unterminatedGroup => "Unterminated group graph pattern"
  | .unbalanced opening => "Unbalanced " ++ quoted opening
  | .unexpectedClosing closing => "Unexpected " ++ quoted closing
  | .badLabel text => "Invalid prefix label " ++ quoted text
  | .missingGraphName keyword => "Expected a variable or an IRI after " ++ keyword
  | .missingBinding => "Expected '(' after BIND"
  | .missingVariables => "Expected variables after VALUES"
  | .missingValues => "Expected '\x7b' after VALUES variables"
  | .missingGroup => "Expected '\x7b' after EXISTS"
  | .missingConstraint => "Expected a constraint after FILTER"
  | .missingPredicate => "Expected a predicate inside '[ ]'"
  | .unterminatedCollection => "Unterminated collection"
  | .repetition => "Repetition path operators are not supported"
  | .negation => "Negated property sets are not supported"
  | .missingDatatype => "Expected a datatype IRI after '^^'"
  | .missingNumber sign => "Expected a number after " ++ quoted sign
  | .secondFocus => "Only one Point Of Focus is allowed per query"
  | .misplacedPathLength => "A path length is only allowed in predicate position"
  | .zeroPathLength => "The path length must be at least 1"
  | .unresolvedPrefix label => "Unresolved prefix '" ++ label ++ ":'"
  | .tooDeep => "Too deeply nested"

/-- A fault of a query. -/
inductive Error where
  /-- A fault at an offset. -/
  | at (offset : Nat) (cause : Cause)
  /-- An escape in a quoted text names no character. -/
  | escape (cause : EscapeError)
  /-- The length of a path is too long a number. -/
  | pathLength (cause : IntegerError)
  /-- A pattern lacks a part. -/
  | incomplete
deriving DecidableEq

/-- The fault that keeps a text from being cut into tokens. -/
def Error.ofToken : TokenError → Error
  | .unexpected c offset => .at offset (.unexpectedCharacter c)
  | .pathLength cause => .pathLength cause

/-- A message with the place that it is about. -/
def located (message : String) (position : Position) : String :=
  message ++ " (line " ++ position.line.repr ++ ", column " ++ position.column.repr ++ ")"

/-- The wording of a fault in the given text. -/
def Error.message (text : List Char) : Error → String
  | .at offset cause => located cause.message (positionAt text offset)
  | .escape cause => cause.message
  | .pathLength cause => cause.message
  | .incomplete => Scope.IncompletePattern.message .incomplete

end PointOfFocus.Query
