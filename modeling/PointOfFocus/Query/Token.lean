import PointOfFocus.Number.Integer

/-!
# Tokens of a query

A token is a piece of the query's text with a kind. Besides the usual kinds there is the point of focus: the
character `<` where it does not open an IRI. What the user typed right before it belongs to the token as a hint:
a keyword, the start of a prefixed name, or the length of a path.
-/

namespace PointOfFocus.Query

/-- An operator or a punctuation mark. -/
inductive Symbol where
  | openBrace | closeBrace | openParen | closeParen | openBracket | closeBracket
  | semicolon | comma | dot | star | slash | bar | caret | bang | plus | minus | question | equal | greater
  | both | either | unequal | atLeast
deriving DecidableEq

/-- The characters of a symbol. -/
def Symbol.text : Symbol → String
  | .openBrace => "\x7b"
  | .closeBrace => "\x7d"
  | .openParen => "("
  | .closeParen => ")"
  | .openBracket => "["
  | .closeBracket => "]"
  | .semicolon => ";"
  | .comma => ","
  | .dot => "."
  | .star => "*"
  | .slash => "/"
  | .bar => "|"
  | .caret => "^"
  | .bang => "!"
  | .plus => "+"
  | .minus => "-"
  | .question => "?"
  | .equal => "="
  | .greater => ">"
  | .both => "&&"
  | .either => "||"
  | .unequal => "!="
  | .atLeast => ">="

/-- The symbol that closes what this one opens. -/
def Symbol.closing? : Symbol → Option Symbol
  | .openBrace => some .closeBrace
  | .openParen => some .closeParen
  | .openBracket => some .closeBracket
  | _ => none

/-- Whether the symbol closes a bracket. -/
def Symbol.isClosing : Symbol → Bool
  | .closeBrace | .closeParen | .closeBracket => true
  | _ => false

/-- What was typed right before the point of focus. -/
inductive Hint where
  /-- Nothing that belongs to it. -/
  | none
  /-- A word to look for. -/
  | keyword (word : String)
  /-- The start of a prefixed name: its label and the characters after the colon. -/
  | nameStart (label part : String)
  /-- The length of a path of predicates. -/
  | pathLength (length : Nat)
deriving DecidableEq

/-- The kinds of tokens. -/
inductive Kind where
  /-- An IRI in angle brackets. -/
  | iri
  /-- The point of focus with its hint. -/
  | focus (hint : Hint)
  /-- A quoted text. -/
  | string
  /-- A variable. -/
  | var
  /-- A blank node with a label. -/
  | blank
  /-- A prefixed name. -/
  | prefixedName
  /-- A language tag. -/
  | language
  /-- A number with an exponent. -/
  | double
  /-- A number with a point. -/
  | decimal
  /-- A number of digits only. -/
  | integer
  /-- A word. -/
  | word
  /-- The mark between a text and its datatype. -/
  | datatypeMark
  /-- An operator or a punctuation mark. -/
  | symbol (symbol : Symbol)
  /-- The end of the query. -/
  | eof
deriving DecidableEq

/-- A piece of the query's text. -/
structure Token where
  /-- What the token is. -/
  kind : Kind
  /-- The characters that made it a token; for a point of focus the marker alone. -/
  text : String
  /-- The offset of its first character. -/
  start : Nat
  /-- The offset after its last character. -/
  stop : Nat
deriving DecidableEq

/-- The token at the end of a text of the given length. -/
def Token.eof (length : Nat) : Token := ⟨.eof, "", length, length⟩

/-- Splits a prefixed name at its first colon. -/
def splitName (name : String) : String × String :=
  let label := name.toList.takeWhile (· ≠ ':')
  (String.ofList label, String.ofList (name.toList.drop (label.length + 1)))

end PointOfFocus.Query
