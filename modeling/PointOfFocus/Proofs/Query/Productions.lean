import PointOfFocus.Proofs.Query.Movement

/-!
# Progress of the productions

The productions of the grammar call each other and repeat each other without looking at the length of the query. They
come to an end because of the tokens that are left: no production goes back or beyond the token for the end, and in
every cycle of calls and in every loop a token is taken (`production_advances`). So the number of tokens left is a bound
on the depth of nesting and on the length of every list, and what is read does not depend on a bound above it. The bound
that a query is read with is one of these (`parseTokens_eq_query`).
-/

namespace PointOfFocus.Query

open PointOfFocus.Rdf

/-- The productions of the grammar, by what they read. -/
inductive Production : Type → Type where
  | query : Production Unit
  | prologue : Production Unit
  | selectClause : Production Unit
  | datasets : Production Unit
  | modifiers : Production Unit
  | condition : Production Unit
  | group : Production Unit
  | element : Production Unit
  | constraint : Production Unit
  | brackets : Production Unit
  | triples : Production Unit
  | propertyList : Production Unit
  | objectList (predicate : Term) : Production Unit
  | object : Production Term
  | graphNode (role : Role) : Production Term
  | blankNode : Production Term
  | collection : Production Term
  | verb : Production Term
  | path : Production Term
  | pathSequence : Production Term
  | pathStep : Production Term
  | pathPrimary : Production Term
  | simpleTerm (role : Role) : Production Term
  | textLiteral : Production Literal
  | number : Production Literal
  | pointOfFocus (role : Role) : Production Term

namespace Production

variable {α : Type}

/-- The step of the parser for a production, with a bound for everything that it nests and repeats. -/
def run : {α : Type} → Production α → Nat → Parser α
  | _, query, bound => Query.query bound
  | _, prologue, bound => Query.prologue bound
  | _, selectClause, bound => Query.selectClause bound
  | _, datasets, bound => Query.datasets bound
  | _, modifiers, bound => Query.modifiers bound
  | _, condition, bound => Query.condition bound
  | _, group, bound => Query.group bound
  | _, element, bound => Query.element (Query.group bound)
  | _, constraint, _ => Query.constraint
  | _, brackets, _ => skipBrackets
  | _, triples, bound => Query.triples bound
  | _, propertyList, bound => Query.propertyList (Query.object bound) bound
  | _, objectList predicate, bound => Query.objectList (Query.object bound) bound predicate
  | _, object, bound => Query.object bound
  | _, graphNode role, _ => Query.graphNode role
  | _, blankNode, bound => Query.blankNode (Query.object bound) bound
  | _, collection, bound => Query.collection (Query.object bound) bound
  | _, verb, bound => Query.verb bound
  | _, path, bound => Query.path bound
  | _, pathSequence, bound => Query.pathSequence bound (Query.path bound)
  | _, pathStep, bound => Query.pathStep (Query.path bound)
  | _, pathPrimary, bound => Query.pathPrimary (Query.path bound)
  | _, simpleTerm role, _ => Query.simpleTerm role
  | _, textLiteral, _ => Query.textLiteral
  | _, number, _ => Query.number
  | _, pointOfFocus role, _ => Query.pointOfFocus role

/-- The number of tokens that the production takes at least. Clauses that may be missing take none. A point of focus
without a predicate's object leaves the list of its objects empty. -/
def least : Production α → Nat
  | prologue | datasets | modifiers | condition | objectList _ | textLiteral | pointOfFocus _ => 0
  | _ => 1

/-- Brackets are skipped only where one opens; every other production stops with a fault where it cannot start. -/
def Starts : Production α → State → Prop
  | brackets, s => s.token.closing?.isSome
  | _, _ => True

end Production

/-- The tokens that are left, with the one for the end. -/
def State.left (s : State) : List Token := s.ahead ++ [s.last]

/-- The last of the tokens that are left is the only one for the end. -/
structure State.EndsOnce (s : State) : Prop where
  last : s.last.kind = .eof
  ahead : ∀ t ∈ s.ahead, t.kind ≠ .eof

/-- The production only goes forward, up to the token for the end at most, whether it succeeds or stops with a fault. If
it succeeds, it has taken its tokens. It does not meet the bound, and any bound above the number of tokens will do. -/
structure Production.Advances {α : Type} (p : Production α) (bound : Nat) (s : State) : Prop where
  forward : (p.run bound s).2.left <:+ s.left
  endsOnce : (p.run bound s).2.EndsOnce
  takes : ∀ a, (p.run bound s).1 = .ok a → (p.run bound s).2.left.length + p.least ≤ s.left.length
  ends : ∀ offset, (p.run bound s).1 ≠ .error (.at offset .tooDeep)
  bounded : ∀ bound', s.left.length < bound' → p.run bound' s = p.run bound s

private theorem State.length_left (s : State) : s.left.length = s.ahead.length + 1 := by
  rw [left, List.length_append, List.length_singleton]

private theorem Moved.left {s after : State} (h : Moved s after) : after.left <:+ s.left := by
  obtain ⟨taken, htaken⟩ := h.ahead
  exact ⟨taken, by rw [State.left, State.left, h.last, ← htaken, List.append_assoc]⟩

private theorem State.EndsOnce.moved {s after : State} (h : s.EndsOnce) (hmoved : Moved s after) : after.EndsOnce :=
  ⟨hmoved.last ▸ h.last, fun t ht => h.ahead t (hmoved.ahead.subset ht)⟩

private theorem State.EndsOnce.within {s : State} (h : s.EndsOnce) : Within s.left s :=
  ⟨fun _ ht => List.mem_append_left _ ht, by simp [State.left], h.last⟩

/-- A production moves through the tokens and takes as many as it has to. -/
theorem production_proceeds {α : Type} (p : Production α) {ts : List Token} {s : State} {bound bound' : Nat}
    (hstarts : p.Starts s) (h : s.ahead.length + 1 < bound) (h' : s.ahead.length + 1 < bound') :
    Proceeds ts s (p.run bound) (p.run bound') fun _ after => Uses p.least s after := by
  -- the three productions that others take as an argument, below both bounds
  have hobject : ∀ s : State, s.ahead.length + 1 < min bound bound' →
      Proceeds ts s (object bound) (object bound') fun _ after => Uses 1 s after :=
    fun s hs => object_proceeds bound bound' s (by omega) (by omega)
  have hpath : ∀ s : State, s.ahead.length < min bound bound' →
      Proceeds ts s (path bound) (path bound') fun _ after => Uses 1 s after :=
    fun s hs => path_proceeds bound bound' s (by omega) (by omega)
  have hgroup : ∀ s : State, s.ahead.length + 1 < min bound bound' →
      Proceeds ts s (group bound) (group bound') fun _ after => Uses 1 s after :=
    fun s hs => group_proceeds bound bound' s (by omega) (by omega)
  cases p with
  | query => exact query_proceeds h h'
  | prologue => exact prologue_proceeds bound bound' s (by omega) (by omega)
  | selectClause => exact selectClause_proceeds (by omega) (by omega)
  | datasets => exact datasets_proceeds bound bound' s (by omega) (by omega)
  | modifiers => exact modifiers_proceeds bound bound' s (by omega) (by omega)
  | condition => exact condition_proceeds (by omega) (by omega)
  | group => exact hgroup s (by omega)
  | element => exact element_proceeds hgroup (by omega)
  | constraint => exact constraint_proceeds
  | brackets => exact skipBrackets_proceeds hstarts
  | triples => exact triples_proceeds (by omega) (by omega)
  | propertyList => exact propertyList_proceeds hobject bound bound' s h h' (by omega)
  | objectList predicate => exact objectList_proceeds hobject predicate (by omega) (by omega) (by omega)
  | object => exact hobject s (by omega)
  | graphNode role => exact graphNode_proceeds role
  | blankNode => exact blankNode_proceeds hobject (by omega) (by omega) (by omega)
  | collection => exact collection_proceeds hobject (by omega) (by omega) (by omega)
  | verb => exact verb_proceeds (by omega) (by omega)
  | path => exact hpath s (by omega)
  | pathSequence => exact pathSequence_proceeds hpath (by omega) (by omega) (by omega)
  | pathStep => exact pathStep_proceeds hpath (by omega)
  | pathPrimary => exact pathPrimary_proceeds hpath (by omega)
  | simpleTerm role => exact simpleTerm_proceeds role
  | textLiteral => exact textLiteral_proceeds (.inl rfl)
  | number => exact number_proceeds
  | pointOfFocus role => exact pointOfFocus_proceeds role (.inl rfl)

/-- Every production makes progress, stays among the tokens and comes to an end. -/
theorem production_advances {α : Type} (p : Production α) {s : State} {bound : Nat} (hend : s.EndsOnce)
    (hstarts : p.Starts s) (hbound : s.left.length < bound) : p.Advances bound s := by
  have hleft := s.length_left
  have hproceeds : ∀ bound', s.left.length < bound' → Proceeds s.left s (p.run bound) (p.run bound') fun _ after =>
      Uses p.least s after := fun _ hbound' => production_proceeds p hstarts (by omega) (by omega)
  obtain ⟨-, hmoved, harrives⟩ := (hproceeds bound hbound).run hend.within
  refine ⟨hmoved.left, hend.moved hmoved, fun a hok => ?_, fun offset herror => ?_,
    fun bound' hbound' => ((hproceeds bound' hbound').run hend.within).1⟩
  · rcases hrun : p.run bound s with ⟨e | b, after⟩
    · rw [hrun] at hok; cases hok
    · rw [hrun] at harrives
      have hcount : after.ahead.length + p.least ≤ s.ahead.length := harrives
      have hafter := after.length_left
      dsimp only
      omega
  · rcases hrun : p.run bound s with ⟨e | b, after⟩
    · rw [hrun] at harrives herror
      cases herror
      exact harrives.1 rfl
    · rw [hrun] at herror; cases herror

/-- A collection that holds an empty one and a number, with the end behind it. -/
theorem production_advances_collection :
    let s : State :=
      { ahead := [⟨.symbol .openParen, "(", 0, 1⟩, ⟨.symbol .openParen, "(", 1, 2⟩, ⟨.symbol .closeParen, ")", 2, 3⟩,
          ⟨.integer, "1", 4, 5⟩, ⟨.symbol .closeParen, ")", 5, 6⟩],
        last := .eof 6, scope := {} }
    s.EndsOnce ∧ Production.collection.Starts s ∧ s.left.length < 7 ∧ Production.collection.Advances 7 s := by
  intro s
  have hend : s.EndsOnce := ⟨rfl, by simp [s]⟩
  exact ⟨hend, trivial, Nat.lt_succ_self 6, production_advances .collection hend trivial (Nat.lt_succ_self 6)⟩

/-- Any bound above the number of tokens of a query gives what reading it gives. -/
theorem parseTokens_eq_query {scope : Scope} {ts : List Token} {length bound : Nat} (h : ts.length + 1 < bound) :
    parseTokens scope ts length =
      ((query bound { ahead := ts, last := .eof length, scope }).1,
        (query bound { ahead := ts, last := .eof length, scope }).2.scope) := by
  have hsame : query bound { ahead := ts, last := .eof length, scope } =
      query (ts.length + 2) { ahead := ts, last := .eof length, scope } :=
    ((query_proceeds (Nat.lt_succ_self (ts.length + 1)) h).run (within_start scope ts length)).1
  rw [parseTokens, hsame]
  rfl

end PointOfFocus.Query
