import PointOfFocus.Query.Parse

/-!
# The phrases of terms

The abstract form of names, literals, paths and predicates. A phrase has its pieces, which say what its tokens look
like, the term that it stands for, and a condition under which it is well formed, given the IRIs that the declared
labels stand for.
-/

namespace PointOfFocus.Query.Phrase

open PointOfFocus.Rdf
open PointOfFocus.Text (upper)

/-! ### Pieces -/

/-- What is known of one token of a phrase. -/
inductive Piece where
  /-- Its kind and its text. -/
  | exact (kind : Kind) (text : String)
  /-- Its kind and its text, in a part of the phrase that is skipped. -/
  | skipped (kind : Kind) (text : String)
  /-- It is the keyword, in any case. -/
  | keyword (word : String)
  /-- It is the truth value, in any case. -/
  | truth (value : Bool)

/-- The word for a truth value. -/
def truthWord (value : Bool) : String := if value then "true" else "false"

/-- Whether a token is as the piece says. -/
def Piece.Matches : Piece → Token → Prop
  | .exact kind text, t => t.kind = kind ∧ t.text = text
  | .skipped kind text, t => t.kind = kind ∧ t.text = text
  | .keyword word, t => t.kind = .word ∧ upper t.text = word
  | .truth value, t => t.kind = .word ∧ t.text.toList.map Char.toLower = (truthWord value).toList

/-- Whether the piece is a point of focus that is not skipped. -/
def Piece.isMarker : Piece → Bool
  | .exact (.focus _) _ => true
  | _ => false

/-- The number of points of focus. -/
def markers (pieces : List Piece) : Nat := pieces.countP Piece.isMarker

/-- The piece for a symbol. -/
def symbol (s : Symbol) : Piece := .exact (.symbol s) s.text

/-- The labels of prefixed names with the IRIs that they stand for. -/
abbrev Labels := String → Option String

/-! ### Names and literals -/

/-- An IRI, written in full or with a label. -/
inductive Name where
  /-- An IRI in angle brackets. -/
  | full (iri : String)
  /-- A label, and what follows its colon. -/
  | short (label part : String)

namespace Name

/-- The token of a name. -/
def piece : Name → Piece
  | .full iri => .exact .iri ("<" ++ iri ++ ">")
  | .short label part => .exact .prefixedName (label ++ ":" ++ part)

/-- The IRI that a name stands for. -/
def iri (labels : Labels) : Name → String
  | .full iri => iri
  | .short label part => (labels label).getD "" ++ part

/-- The label of the name is declared. -/
def Declared (labels : Labels) : Name → Prop
  | .full _ => True
  | .short label _ => ':' ∉ label.toList ∧ (labels label).isSome

end Name

/-- What follows a quoted text. -/
inductive Suffix where
  /-- Nothing. -/
  | none
  /-- A language tag. -/
  | language (tag : String)
  /-- A datatype. -/
  | datatype (name : Name)

/-- The ways to write a number. -/
inductive Numeral where
  | integer | decimal | double

/-- The kind of the token of a number. -/
def Numeral.kind : Numeral → Kind
  | .integer => .integer
  | .decimal => .decimal
  | .double => .double

/-- The datatype of a number. -/
def Numeral.datatype : Numeral → String
  | .integer => Rdf.datatype "integer"
  | .decimal => Rdf.datatype "decimal"
  | .double => Rdf.datatype "double"

/-- A term that holds no other terms. -/
inductive Atom where
  /-- The point of focus. -/
  | focus (hint : Hint)
  /-- A variable after its mark. -/
  | var (mark : Char) (name : String)
  /-- An IRI. -/
  | iri (name : Name)
  /-- A blank node with a label. -/
  | blank (label : String)
  /-- A text as it is written, what it stands for, and what follows it. -/
  | text (written lexical : String) (suffix : Suffix)
  /-- A number, with or without a minus sign. -/
  | number (negative : Bool) (numeral : Numeral) (digits : String)
  /-- A truth value. -/
  | truth (value : Bool)

namespace Suffix

/-- The tokens after a quoted text. -/
def pieces : Suffix → List Piece
  | .none => []
  | .language tag => [.exact .language ("@" ++ tag)]
  | .datatype n => [.exact .datatypeMark "^^", n.piece]

/-- The literal of a text. -/
def literal (labels : Labels) (lexical : String) : Suffix → Literal
  | .none => .plain lexical
  | .language tag => ⟨lexical, .language tag⟩
  | .datatype n => .typed lexical (n.iri labels)

/-- The label of a datatype is declared. -/
def Declared (labels : Labels) : Suffix → Prop
  | .datatype n => n.Declared labels
  | _ => True

end Suffix

/-- The label of a hint is declared, and the length of a path is at least one. -/
def HintFits (labels : Labels) : Hint → Prop
  | .nameStart label _ => (labels label).isSome
  | .pathLength length => 1 ≤ length
  | _ => True

namespace Atom

/-- The tokens of the term. -/
def pieces : Atom → List Piece
  | .focus hint => [.exact (.focus hint) "<"]
  | .var mark name => [.exact .var (String.singleton mark ++ name)]
  | .iri name => [name.piece]
  | .blank label => [.exact .blank ("_:" ++ label)]
  | .text written _ suffix => .exact .string written :: suffix.pieces
  | .number negative numeral digits =>
    (if negative then [symbol .minus] else []) ++ [.exact numeral.kind digits]
  | .truth value => [.truth value]

/-- The term that is meant. -/
def term (labels : Labels) : Atom → Term
  | .focus _ => .focus
  | .var _ name => .var name
  | .iri name => .iri (name.iri labels)
  | .blank label => .blank label
  | .text _ lexical suffix => .literal (suffix.literal labels lexical)
  | .number negative numeral digits => .literal (.typed ((if negative then "-" else "") ++ digits) numeral.datatype)
  | .truth value => .literal (.typed (truthWord value) (datatype "boolean"))

/-- Labels are declared, texts stand for what they are said to, and only a predicate has a path length. -/
def Fits (labels : Labels) : Atom → Prop
  | .focus hint => HintFits labels hint ∧ ∀ length, hint ≠ .pathLength length
  | .iri name => name.Declared labels
  | .text written lexical suffix => quotedText written = .ok lexical ∧ suffix.Declared labels
  | _ => True

end Atom

/-! ### Paths -/

mutual

/-- A path: alternatives of which one is taken. -/
inductive Path where
  /-- The last alternative. -/
  | last (steps : Steps)
  /-- An alternative before others. -/
  | or (steps : Steps) (others : Path)

/-- Steps that are walked one after the other. -/
inductive Steps where
  /-- The last step. -/
  | last (step : Step)
  /-- A step before others. -/
  | andThen (step : Step) (others : Steps)

/-- A step, which may be walked backwards. -/
inductive Step where
  /-- A step along an IRI. -/
  | name (inverse : Bool) (name : Name)
  /-- A step along the type predicate by its short form. -/
  | type (inverse : Bool)
  /-- A step along a path in parentheses. -/
  | group (inverse : Bool) (path : Path)

end

/-- The token for a step backwards. -/
def caretPieces (inverse : Bool) : List Piece := if inverse then [symbol .caret] else []

/-- The term of a step along the given one. -/
def stepTerm (inverse : Bool) (t : Term) : Term := if inverse then .inverse t else t

/-- The term of some steps, given those of the single ones. -/
def stepsTerm : List Term → Term
  | [t] => t
  | ts => .sequenceOf ts

/-- The term of some alternatives, given those of the single ones. -/
def pathTerm : List Term → Term
  | [t] => t
  | ts => .alternativeOf ts

mutual

/-- The tokens of a path. -/
def Path.pieces : Path → List Piece
  | .last steps => steps.pieces
  | .or steps others => steps.pieces ++ symbol .bar :: others.pieces

/-- The tokens of some steps. -/
def Steps.pieces : Steps → List Piece
  | .last step => step.pieces
  | .andThen step others => step.pieces ++ symbol .slash :: others.pieces

/-- The tokens of a step. -/
def Step.pieces : Step → List Piece
  | .name inverse name => caretPieces inverse ++ [name.piece]
  | .type inverse => caretPieces inverse ++ [.exact .word "a"]
  | .group inverse path => caretPieces inverse ++ symbol .openParen :: path.pieces ++ [symbol .closeParen]

end

mutual

/-- The terms of the alternatives of a path. -/
def Path.terms (labels : Labels) : Path → List Term
  | .last steps => [stepsTerm (steps.terms labels)]
  | .or steps others => stepsTerm (steps.terms labels) :: others.terms labels

/-- The terms of the single steps. -/
def Steps.terms (labels : Labels) : Steps → List Term
  | .last step => [step.term labels]
  | .andThen step others => step.term labels :: others.terms labels

/-- The term of a step. -/
def Step.term (labels : Labels) : Step → Term
  | .name inverse name => stepTerm inverse (.iri (name.iri labels))
  | .type inverse => stepTerm inverse .type
  | .group inverse path => stepTerm inverse (pathTerm (path.terms labels))

end

mutual

/-- The labels of a path are declared. -/
def Path.Fits (labels : Labels) : Path → Prop
  | .last steps => steps.Fits labels
  | .or steps others => steps.Fits labels ∧ others.Fits labels

/-- The labels of some steps are declared. -/
def Steps.Fits (labels : Labels) : Steps → Prop
  | .last step => step.Fits labels
  | .andThen step others => step.Fits labels ∧ others.Fits labels

/-- The labels of a step are declared. -/
def Step.Fits (labels : Labels) : Step → Prop
  | .name _ name => name.Declared labels
  | .type _ => True
  | .group _ path => path.Fits labels

end

/-- A predicate. -/
inductive Verb where
  /-- The point of focus. -/
  | focus (hint : Hint)
  /-- A variable after its mark. -/
  | var (mark : Char) (name : String)
  /-- A path. -/
  | along (path : Path)

namespace Verb

/-- The tokens of the predicate. -/
def pieces : Verb → List Piece
  | .focus hint => [.exact (.focus hint) "<"]
  | .var mark name => [.exact .var (String.singleton mark ++ name)]
  | .along path => path.pieces

/-- The term of the predicate. -/
def term (labels : Labels) : Verb → Term
  | .focus _ => .focus
  | .var _ name => .var name
  | .along path => pathTerm (path.terms labels)

/-- Labels are declared and the length of a path is at least one. -/
def Fits (labels : Labels) : Verb → Prop
  | .focus hint => HintFits labels hint
  | .var _ _ => True
  | .along path => path.Fits labels

end Verb

end PointOfFocus.Query.Phrase
