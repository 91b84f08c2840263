import PointOfFocus.Proofs.Query.Phrase.Term

/-!
# The phrases of triples

The abstract form of subjects and objects with their properties, and of blocks of triples. The reading of such a phrase
is the list of the triple patterns that it stands for: those of a nested node come before the one that uses it, a
bracketed node takes its variable before its contents, and a collection takes one variable for each item after the
items.
-/

namespace PointOfFocus.Query.Phrase

open PointOfFocus.Rdf

mutual

/-- A subject or an object. -/
inductive Node where
  /-- A term that holds no other terms. -/
  | atom (a : Atom)
  /-- A node without a name, in empty brackets. -/
  | anonymous
  /-- A node without a name, in brackets with its properties. -/
  | blank (properties : Properties)
  /-- A collection. -/
  | collection (items : List Node)

/-- Predicates with their objects, and the number of semicolons after them. -/
inductive Properties where
  /-- The last predicate, with any number of semicolons. -/
  | last (verb : Verb) (objects : List Node) (semicolons : Nat)
  /-- A predicate before others, with one semicolon and some more. -/
  | more (verb : Verb) (objects : List Node) (semicolons : Nat) (others : Properties)

end

/-- Any number of semicolons. -/
def semicolonPieces (count : Nat) : List Piece := List.replicate count (symbol .semicolon)

mutual

/-- The tokens of a node. -/
def Node.pieces : Node → List Piece
  | .atom a => a.pieces
  | .anonymous => [symbol .openBracket, symbol .closeBracket]
  | .blank properties => symbol .openBracket :: properties.pieces ++ [symbol .closeBracket]
  | .collection items => symbol .openParen :: itemPieces items ++ [symbol .closeParen]

/-- The tokens of nodes one after the other. -/
def itemPieces : List Node → List Piece
  | [] => []
  | n :: ns => n.pieces ++ itemPieces ns

/-- The tokens of further objects, each after a comma. -/
def commaPieces : List Node → List Piece
  | [] => []
  | n :: ns => symbol .comma :: n.pieces ++ commaPieces ns

/-- The tokens of objects with commas between them. -/
def objectPieces : List Node → List Piece
  | [] => []
  | n :: ns => n.pieces ++ commaPieces ns

/-- The tokens of properties. -/
def Properties.pieces : Properties → List Piece
  | .last verb objects semicolons => verb.pieces ++ objectPieces objects ++ semicolonPieces semicolons
  | .more verb objects semicolons others =>
    verb.pieces ++ objectPieces objects ++ semicolonPieces (semicolons + 1) ++ others.pieces

end

/-- What a phrase stands for: its value, its patterns, and the number of the next variable to be made up. -/
structure Reading (α : Type) where
  /-- The value. -/
  value : α
  /-- The patterns. -/
  patterns : List Pattern
  /-- The number of the next variable to be made up. -/
  next : Nat

/-- The made-up variable with the given number. -/
def madeUp (number : Nat) : Term := .var ("_anon" ++ number.repr)

/-- The patterns of a list whose nodes are the variables from the given number on. -/
def listPatterns : Nat → List Term → List Pattern
  | _, [] => []
  | n, [item] =>
    [{ subject := madeUp n, predicate := .iri firstIri, object := item },
      { subject := madeUp n, predicate := .iri restIri, object := .iri nilIri }]
  | n, item :: items =>
    { subject := madeUp n, predicate := .iri firstIri, object := item } ::
      { subject := madeUp n, predicate := .iri restIri, object := madeUp (n + 1) } :: listPatterns (n + 1) items

/-- The collection of the items, of which the next variables are the nodes. -/
def listReading (items : Reading (List Term)) : Reading Term where
  value := if items.value = [] then .iri nilIri else madeUp items.next
  patterns := items.patterns ++ listPatterns items.next items.value
  next := items.next + items.value.length

mutual

/-- What a node stands for, with the number of the next variable to be made up. -/
def Node.reading (labels : Labels) : Node → Nat → Reading Term
  | .atom a, n => ⟨a.term labels, [], n⟩
  | .anonymous, n => ⟨madeUp n, [], n + 1⟩
  | .blank properties, n =>
    let inner := properties.reading labels (madeUp n) (n + 1)
    ⟨madeUp n, inner.patterns, inner.next⟩
  | .collection items, n => listReading (itemReading labels items n)

/-- What items stand for. -/
def itemReading (labels : Labels) : List Node → Nat → Reading (List Term)
  | [], n => ⟨[], [], n⟩
  | item :: items, n =>
    let first := item.reading labels n
    let others := itemReading labels items first.next
    ⟨first.value :: others.value, first.patterns ++ others.patterns, others.next⟩

/-- What the further objects of a subject and a predicate stand for. -/
def objectReading (labels : Labels) (subject predicate : Term) : List Node → Nat → Reading Unit
  | [], n => ⟨(), [], n⟩
  | object :: objects, n =>
    let first := object.reading labels n
    let others := objectReading labels subject predicate objects first.next
    ⟨(), first.patterns ++ { subject, predicate, object := first.value } :: others.patterns, others.next⟩

/-- What a subject, a predicate and its objects stand for; without an object there is the filling one. -/
def verbReading (labels : Labels) (subject predicate : Term) : List Node → Nat → Reading Unit
  | [], n => ⟨(), [{ subject, predicate, object := .filler }], n⟩
  | object :: objects, n =>
    let first := object.reading labels n
    let others := objectReading labels subject predicate objects first.next
    ⟨(), first.patterns ++ { subject, predicate, object := first.value } :: others.patterns, others.next⟩

/-- What the properties of a subject stand for. -/
def Properties.reading (labels : Labels) (subject : Term) : Properties → Nat → Reading Unit
  | .last verb objects _, n => verbReading labels subject (verb.term labels) objects n
  | .more verb objects _ others, n =>
    let first := verbReading labels subject (verb.term labels) objects n
    let rest := others.reading labels subject first.next
    ⟨(), first.patterns ++ rest.patterns, rest.next⟩

end

mutual

/-- The parts of a node are well formed. -/
def Node.Fits (labels : Labels) : Node → Prop
  | .atom a => a.Fits labels
  | .anonymous => True
  | .blank properties => properties.Fits labels
  | .collection items => nodesFit labels items

/-- Nodes are well formed. -/
def nodesFit (labels : Labels) : List Node → Prop
  | [] => True
  | n :: ns => n.Fits labels ∧ nodesFit labels ns

/-- The parts of properties are well formed, and only the point of focus has no object. -/
def Properties.Fits (labels : Labels) : Properties → Prop
  | .last verb objects _ =>
    verb.Fits labels ∧ nodesFit labels objects ∧ (objects = [] → verb.term labels = .focus)
  | .more verb objects _ others =>
    verb.Fits labels ∧ nodesFit labels objects ∧ (objects = [] → verb.term labels = .focus) ∧ others.Fits labels

end

/-- A block of triples: a subject and its properties. -/
structure Block where
  /-- The subject. -/
  subject : Node
  /-- The properties, which a subject with triples of its own may lack. -/
  properties : Option Properties

/-- Whether the node is in brackets with its properties. -/
def Node.isBlank : Node → Bool
  | .blank _ => true
  | _ => false

/-- Whether the node is a collection. -/
def Node.isCollection : Node → Bool
  | .collection _ => true
  | _ => false

/-- Whether the node is written with triples of its own. -/
def Node.isCompound (n : Node) : Bool := n.isBlank || n.isCollection

namespace Block

/-- The tokens of a block. -/
def pieces (b : Block) : List Piece := b.subject.pieces ++ (b.properties.map Properties.pieces).getD []

/-- What a block stands for. -/
def reading (labels : Labels) (b : Block) (n : Nat) : Reading Unit :=
  let subject := b.subject.reading labels n
  match b.properties with
  | none => ⟨(), subject.patterns, subject.next⟩
  | some properties =>
    let rest := properties.reading labels subject.value subject.next
    ⟨(), subject.patterns ++ rest.patterns, rest.next⟩

/-- The parts of a block are well formed. -/
def Fits (labels : Labels) (b : Block) : Prop :=
  b.subject.Fits labels ∧ (∀ ps, b.properties = some ps → ps.Fits labels) ∧
    (b.properties = none → b.subject.isCompound)

end Block

end PointOfFocus.Query.Phrase
