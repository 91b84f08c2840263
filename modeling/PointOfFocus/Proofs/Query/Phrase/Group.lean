import PointOfFocus.Proofs.Query.Phrase.Node

/-!
# The phrases of groups

The abstract form of groups with all that can stand in them. Expressions and blocks of values are skipped as a whole;
what matters about them is that their brackets match.
-/

namespace PointOfFocus.Query.Phrase

open PointOfFocus.Text (upper)

/-! ### Skipped parts -/

/-- The brackets that can be skipped. -/
inductive Bracket where
  | paren | brace | square

/-- The opening symbol. -/
def Bracket.opening : Bracket → Symbol
  | .paren => .openParen
  | .brace => .openBrace
  | .square => .openBracket

/-- The closing symbol. -/
def Bracket.closing : Bracket → Symbol
  | .paren => .closeParen
  | .brace => .closeBrace
  | .square => .closeBracket

/-- Whether the symbol is a bracket. -/
def isBracket (s : Symbol) : Bool := s.closing?.isSome || s.isClosing

/-- An item of a part that is skipped: a token that is no bracket, or brackets with items between them. -/
inductive Skipped where
  /-- A token. -/
  | token (kind : Kind) (text : String)
  /-- Brackets. -/
  | bracket (shape : Bracket) (items : List Skipped)

/-- The piece for a bracket in a part that is skipped. -/
def skippedSymbol (s : Symbol) : Piece := .skipped (.symbol s) s.text

mutual

/-- The tokens of an item. -/
def Skipped.pieces : Skipped → List Piece
  | .token kind text => [.skipped kind text]
  | .bracket shape items => skippedSymbol shape.opening :: skippedPieces items ++ [skippedSymbol shape.closing]

/-- The tokens of items. -/
def skippedPieces : List Skipped → List Piece
  | [] => []
  | item :: items => item.pieces ++ skippedPieces items

end

mutual

/-- The single tokens are no brackets. -/
def Skipped.Fits : Skipped → Prop
  | .token kind _ => ∀ s, kind = .symbol s → isBracket s = false
  | .bracket _ items => skippedFit items

/-- The single tokens of items are no brackets. -/
def skippedFit : List Skipped → Prop
  | [] => True
  | item :: items => item.Fits ∧ skippedFit items

end

/-- The tokens of brackets with items between them. -/
def bracketPieces (shape : Bracket) (items : List Skipped) : List Piece := (Skipped.bracket shape items).pieces

/-! ### Groups -/

/-- The name of a function. -/
inductive FunctionName where
  /-- A word. -/
  | word (text : String)
  /-- An IRI. -/
  | iri (name : Name)

/-- The token of the name of a function. -/
def FunctionName.piece : FunctionName → Piece
  | .word text => .exact .word text
  | .iri name => name.piece

/-- The constraint of a filter. -/
inductive Constraint where
  /-- An expression in parentheses. -/
  | expression (items : List Skipped)
  /-- A function with its arguments. -/
  | call (name : FunctionName) (items : List Skipped)
  /-- A test for the existence of a group, or for its absence. -/
  | existence (negated : Bool) (items : List Skipped)

namespace Constraint

/-- The tokens of a constraint. -/
def pieces : Constraint → List Piece
  | .expression items => bracketPieces .paren items
  | .call name items => name.piece :: bracketPieces .paren items
  | .existence negated items =>
    (if negated then [.keyword "NOT"] else []) ++ .keyword "EXISTS" :: bracketPieces .brace items

/-- The brackets match, and no function is called like a test for existence. -/
def Fits : Constraint → Prop
  | .expression items => skippedFit items
  | .call (.word text) items => skippedFit items ∧ upper text ≠ "NOT" ∧ upper text ≠ "EXISTS"
  | .call (.iri _) items => skippedFit items
  | .existence _ items => skippedFit items

end Constraint

/-- The name of a graph or a service. -/
inductive GraphName where
  /-- A variable after its mark. -/
  | var (mark : Char) (name : String)
  /-- An IRI. -/
  | iri (name : Name)

/-- The name of a graph as a term. -/
def GraphName.atom : GraphName → Atom
  | .var mark x => .var mark x
  | .iri name => .iri name

/-- The keywords before a group that is joined to the rest. -/
inductive Joining where
  | optional | minus

/-- The keyword. -/
def Joining.word : Joining → String
  | .optional => "OPTIONAL"
  | .minus => "MINUS"

/-- Where the patterns of a group are looked for. -/
inductive Place where
  /-- In a graph. -/
  | graph
  /-- At a service, whose faults may be passed over. -/
  | service (silent : Bool)

/-- The tokens before the name of the place. -/
def Place.pieces : Place → List Piece
  | .graph => [.keyword "GRAPH"]
  | .service silent => .keyword "SERVICE" :: if silent then [.keyword "SILENT"] else []

/-- The variables of a block of values. -/
inductive Columns where
  /-- One variable after its mark. -/
  | one (mark : Char) (name : String)
  /-- Variables in parentheses. -/
  | several (items : List Skipped)

/-- The tokens of the variables. -/
def Columns.pieces : Columns → List Piece
  | .one mark x => [.exact .var (String.singleton mark ++ x)]
  | .several items => bracketPieces .paren items

/-- The brackets match. -/
def Columns.Fits : Columns → Prop
  | .one _ _ => True
  | .several items => skippedFit items

mutual

/-- A group. -/
inductive Group where
  /-- Elements in braces. -/
  | braces (elements : List Element)

/-- An element of a group. -/
inductive Element where
  /-- A dot. -/
  | dot
  /-- A block of triples. -/
  | block (b : Block)
  /-- Groups of which one has to match. -/
  | union (first : Group) (others : List Group)
  /-- A group after a keyword. -/
  | joined (keyword : Joining) (g : Group)
  /-- A group in a graph or at a service. -/
  | placed (place : Place) (name : GraphName) (g : Group)
  /-- A filter. -/
  | filter (c : Constraint)
  /-- A binding. -/
  | binding (items : List Skipped)
  /-- A block of values. -/
  | values (columns : Columns) (rows : List Skipped)

end

mutual

/-- The tokens of a group. -/
def Group.pieces : Group → List Piece
  | .braces elements => symbol .openBrace :: elementPieces elements ++ [symbol .closeBrace]

/-- The tokens of elements. -/
def elementPieces : List Element → List Piece
  | [] => []
  | e :: es => e.pieces ++ elementPieces es

/-- The tokens of further groups, each after a keyword. -/
def unionPieces : List Group → List Piece
  | [] => []
  | g :: gs => .keyword "UNION" :: g.pieces ++ unionPieces gs

/-- The tokens of an element. -/
def Element.pieces : Element → List Piece
  | .dot => [symbol .dot]
  | .block b => b.pieces
  | .union first others => first.pieces ++ unionPieces others
  | .joined keyword g => .keyword keyword.word :: g.pieces
  | .placed place name g => place.pieces ++ name.atom.pieces ++ g.pieces
  | .filter c => .keyword "FILTER" :: c.pieces
  | .binding items => .keyword "BIND" :: bracketPieces .paren items
  | .values columns rows => .keyword "VALUES" :: columns.pieces ++ bracketPieces .brace rows

end

mutual

/-- What a group stands for. -/
def Group.reading (labels : Labels) : Group → Nat → Reading Unit
  | .braces elements, n => elementReading labels elements n

/-- What elements stand for. -/
def elementReading (labels : Labels) : List Element → Nat → Reading Unit
  | [], n => ⟨(), [], n⟩
  | e :: es, n =>
    let first := e.reading labels n
    let rest := elementReading labels es first.next
    ⟨(), first.patterns ++ rest.patterns, rest.next⟩

/-- What further groups stand for. -/
def groupReading (labels : Labels) : List Group → Nat → Reading Unit
  | [], n => ⟨(), [], n⟩
  | g :: gs, n =>
    let first := g.reading labels n
    let rest := groupReading labels gs first.next
    ⟨(), first.patterns ++ rest.patterns, rest.next⟩

/-- What an element stands for; what is skipped has no patterns. -/
def Element.reading (labels : Labels) : Element → Nat → Reading Unit
  | .block b, n => b.reading labels n
  | .union first others, n =>
    let one := first.reading labels n
    let rest := groupReading labels others one.next
    ⟨(), one.patterns ++ rest.patterns, rest.next⟩
  | .joined _ g, n => g.reading labels n
  | .placed _ _ g, n => g.reading labels n
  | .dot, n => ⟨(), [], n⟩
  | .filter _, n => ⟨(), [], n⟩
  | .binding _, n => ⟨(), [], n⟩
  | .values _ _, n => ⟨(), [], n⟩

end

/-- Whether the element is a block of triples. -/
def Element.isBlock : Element → Bool
  | .block _ => true
  | _ => false

mutual

/-- The elements of a group are well formed. -/
def Group.Fits (labels : Labels) : Group → Prop
  | .braces elements => elementsFit labels elements

/-- Elements are well formed, and no block of triples directly follows another. -/
def elementsFit (labels : Labels) : List Element → Prop
  | [] => True
  | e :: es =>
    e.Fits labels ∧ (e.isBlock → ∀ f ∈ es.head?, f.isBlock = false) ∧ elementsFit labels es

/-- Groups are well formed. -/
def groupsFit (labels : Labels) : List Group → Prop
  | [] => True
  | g :: gs => g.Fits labels ∧ groupsFit labels gs

/-- The parts of an element are well formed. -/
def Element.Fits (labels : Labels) : Element → Prop
  | .dot => True
  | .block b => b.Fits labels
  | .union first others => first.Fits labels ∧ groupsFit labels others
  | .joined _ g => g.Fits labels
  | .placed _ name g => name.atom.Fits labels ∧ g.Fits labels
  | .filter c => c.Fits
  | .binding items => skippedFit items
  | .values columns rows => columns.Fits ∧ skippedFit rows

end

mutual

/-- Whether the group holds a test for the absence of a group. -/
def Group.hasAbsence : Group → Bool
  | .braces elements => anyAbsence elements

/-- Whether one of the elements holds a test for the absence of a group. -/
def anyAbsence : List Element → Bool
  | [] => false
  | e :: es => e.hasAbsence || anyAbsence es

/-- Whether one of the groups holds a test for the absence of a group. -/
def anyGroupAbsence : List Group → Bool
  | [] => false
  | g :: gs => g.hasAbsence || anyGroupAbsence gs

/-- Whether the element holds a test for the absence of a group. -/
def Element.hasAbsence : Element → Bool
  | .union first others => first.hasAbsence || anyGroupAbsence others
  | .joined _ g => g.hasAbsence
  | .placed _ _ g => g.hasAbsence
  | .filter (.existence negated _) => negated
  | .filter (.expression _) => false
  | .filter (.call _ _) => false
  | .dot => false
  | .block _ => false
  | .binding _ => false
  | .values _ _ => false

end

end PointOfFocus.Query.Phrase
