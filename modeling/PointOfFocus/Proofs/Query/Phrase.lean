import Mathlib.Data.List.Forall2
import PointOfFocus.Proofs.Query.Phrase.Group

/-!
# The phrases of queries

The abstract form of a query: what is declared before it, what it selects and from where, its group of patterns, and
its modifiers. The patterns of a query are those that its group stands for, in the order of the text.
-/

namespace PointOfFocus.Query.Phrase

open PointOfFocus.Text (upper)

/-- A declaration before the query proper. -/
inductive Declaration where
  /-- The base IRI. -/
  | base (iri : String)
  /-- A label and the IRI that it stands for. -/
  | label (label iri : String)

/-- The tokens of a declaration. -/
def Declaration.pieces : Declaration → List Piece
  | .base iri => [.keyword "BASE", (Name.full iri).piece]
  | .label l iri => [.keyword "PREFIX", (Name.short l "").piece, (Name.full iri).piece]

/-- A declared label has no colon. -/
def Declaration.Fits : Declaration → Prop
  | .base _ => True
  | .label l _ => ':' ∉ l.toList

/-- The IRIs that the declared labels stand for; of two declarations of a label the later one counts. -/
def labelsOf : List Declaration → Labels
  | [], _ => none
  | .base _ :: rest, x => labelsOf rest x
  | .label l iri :: rest, x => (labelsOf rest x).or (if l = x then some iri else none)

/-- Something that a query selects. -/
inductive Selected where
  /-- A variable after its mark. -/
  | var (mark : Char) (name : String)
  /-- An expression in parentheses. -/
  | expression (items : List Skipped)

/-- The tokens of something selected. -/
def Selected.pieces : Selected → List Piece
  | .var mark x => [.exact .var (String.singleton mark ++ x)]
  | .expression items => bracketPieces .paren items

/-- The brackets match. -/
def Selected.Fits : Selected → Prop
  | .var _ _ => True
  | .expression items => skippedFit items

/-- What a query selects: everything, or some variables and expressions. -/
inductive Selection where
  /-- Everything. -/
  | everything
  /-- At least one variable or expression. -/
  | items (first : Selected) (others : List Selected)

/-- The tokens of what is selected. -/
def Selection.pieces : Selection → List Piece
  | .everything => [symbol .star]
  | .items first others => first.pieces ++ others.flatMap Selected.pieces

/-- The brackets match. -/
def Selection.Fits : Selection → Prop
  | .everything => True
  | .items first others => first.Fits ∧ ∀ item ∈ others, item.Fits

/-- Whether repeated answers are kept. -/
inductive Repetition where
  | all | distinct | reduced

/-- The tokens that say whether repeated answers are kept. -/
def Repetition.pieces : Repetition → List Piece
  | .all => []
  | .distinct => [.keyword "DISTINCT"]
  | .reduced => [.keyword "REDUCED"]

/-- A graph that the query is asked of. -/
structure Dataset where
  /-- Whether it is a named graph. -/
  isNamed : Bool
  /-- Its IRI. -/
  name : Name

/-- The tokens of a graph that the query is asked of. -/
def Dataset.pieces (d : Dataset) : List Piece :=
  .keyword "FROM" :: (if d.isNamed then [.keyword "NAMED"] else []) ++ [d.name.piece]

/-- A condition of a modifier. -/
structure Condition where
  /-- Its first item. -/
  first : Skipped
  /-- Its further items. -/
  others : List Skipped

/-- The item does not start a modifier. -/
def IsPlain : Skipped → Prop
  | .token kind text => kind ≠ .eof ∧ (kind = .word → upper text ∉ modifierKeywords)
  | .bracket _ _ => True

/-- The tokens of a condition. -/
def Condition.pieces (c : Condition) : List Piece := c.first.pieces ++ skippedPieces c.others

/-- The brackets match, and no item starts a modifier. -/
def Condition.Fits (c : Condition) : Prop :=
  skippedFit (c.first :: c.others) ∧ ∀ item ∈ c.first :: c.others, IsPlain item

/-- A modifier of a query. -/
inductive Modifier where
  /-- The number of answers. -/
  | limit (digits : String)
  /-- The number of answers that are passed over. -/
  | offset (digits : String)
  /-- What answers are grouped by. -/
  | groupBy (c : Condition)
  /-- What answers are ordered by. -/
  | orderBy (c : Condition)
  /-- What groups have to meet. -/
  | having (c : Condition)

/-- The tokens of a modifier. -/
def Modifier.pieces : Modifier → List Piece
  | .limit digits => [.keyword "LIMIT", .exact .integer digits]
  | .offset digits => [.keyword "OFFSET", .exact .integer digits]
  | .groupBy c => .keyword "GROUP" :: .keyword "BY" :: c.pieces
  | .orderBy c => .keyword "ORDER" :: .keyword "BY" :: c.pieces
  | .having c => .keyword "HAVING" :: c.pieces

/-- The condition of a modifier is well formed. -/
def Modifier.Fits : Modifier → Prop
  | .limit _ => True
  | .offset _ => True
  | .groupBy c => c.Fits
  | .orderBy c => c.Fits
  | .having c => c.Fits

end PointOfFocus.Query.Phrase

namespace PointOfFocus.Query

open Phrase

/-- A query in abstract form. -/
structure Phrase where
  /-- The declarations before it. -/
  declarations : List Declaration := []
  /-- Whether repeated answers are kept. -/
  repetition : Repetition := .all
  /-- What is selected. -/
  selection : Selection
  /-- The graphs that it is asked of. -/
  datasets : List Dataset := []
  /-- Whether a keyword stands before the group. -/
  hasWhere : Bool := true
  /-- The group of patterns. -/
  group : Group
  /-- The modifiers after it. -/
  modifiers : List Modifier := []

namespace Phrase

/-- The IRIs that the labels of a query stand for. -/
def labels (q : Phrase) : Labels := labelsOf q.declarations

/-- The tokens of a query. -/
def pieces (q : Phrase) : List Piece :=
  q.declarations.flatMap Declaration.pieces ++ .keyword "SELECT" :: q.repetition.pieces ++ q.selection.pieces ++
    q.datasets.flatMap Dataset.pieces ++ (if q.hasWhere then [.keyword "WHERE"] else []) ++ q.group.pieces ++
    q.modifiers.flatMap Modifier.pieces

/-- The patterns that a query stands for. -/
def patterns (q : Phrase) : List Pattern := (q.group.reading q.labels 0).patterns

/-- The parts of a query are well formed, labels are declared, and there is at most one point of focus. -/
structure Fits (q : Phrase) : Prop where
  declarations : ∀ d ∈ q.declarations, d.Fits
  selection : q.selection.Fits
  datasets : ∀ d ∈ q.datasets, d.name.Declared q.labels
  group : q.group.Fits q.labels
  modifiers : ∀ m ∈ q.modifiers, m.Fits
  markers : markers q.group.pieces ≤ 1

/-- The tokens are those of the query. -/
def Spells (ts : List Token) (q : Phrase) : Prop := List.Forall₂ Piece.Matches q.pieces ts

end Phrase

end PointOfFocus.Query
