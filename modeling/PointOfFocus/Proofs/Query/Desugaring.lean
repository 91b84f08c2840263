import PointOfFocus.Proofs.Query.Groups
import PointOfFocus.Proofs.Query.Remainders

/-!
# Reading queries

The parser reads the tokens of a query in abstract form and finds the patterns that the query stands for, in the order
of the text. The one exception is a query that tests for the absence of a group, which it rejects: the main fact is
`parseTokens_patterns`.
-/

namespace PointOfFocus.Query

open PointOfFocus.Rdf
open PointOfFocus.Text (upper)
open Phrase

variable {labels : Labels}

/-! ### Declarations -/

private theorem valueOf?_cons {α : Type} (name other : String) (value : α) (entries : List (String × α)) :
    Data.valueOf? ((name, value) :: entries) other =
      if name = other then some value else Data.valueOf? entries other := by
  by_cases h : name = other <;> simp [Data.valueOf?, h]

private theorem valueOf?_replace {α : Type} (entries : List (String × α)) (key other : String) (value : α) :
    Data.valueOf? (entries.map fun entry => if entry.1 = key then (key, value) else entry) other =
      if key = other ∧ entries.any (·.1 = key) then some value else Data.valueOf? entries other := by
  induction entries with
  | nil => simp
  | cons entry entries ih =>
    obtain ⟨name, old⟩ := entry
    by_cases hkey : name = key
    · subst hkey
      by_cases h : name = other <;> simp [valueOf?_cons, ih, h]
    · by_cases h : name = other
      · subst h
        simp only [List.map_cons, hkey, ↓reduceIte, valueOf?_cons, Ne.symm hkey, false_and]
      · simp only [List.map_cons, hkey, ↓reduceIte, valueOf?_cons, h, ih, List.any_cons, decide_false, Bool.false_or]

private theorem valueOf?_append {α : Type} (entries : List (String × α)) (key other : String) (value : α)
    (hnew : entries.any (·.1 = key) = false) : Data.valueOf? (entries ++ [(key, value)]) other =
      if key = other then some value else Data.valueOf? entries other := by
  induction entries with
  | nil => simp [valueOf?_cons]
  | cons entry entries ih =>
    obtain ⟨name, old⟩ := entry
    rw [List.any_cons, Bool.or_eq_false_iff] at hnew
    have hkey : name ≠ key := by simpa using hnew.1
    by_cases h : name = other
    · have hne : key ≠ other := fun he => hkey (h.trans he.symm)
      simp only [List.cons_append, valueOf?_cons, h, hne, ↓reduceIte]
    · simp only [List.cons_append, valueOf?_cons, h, ↓reduceIte, ih hnew.2]

/-- A label stands for the IRI that it was last declared with. -/
private theorem valueOf?_setEntry {α : Type} (entries : List (String × α)) (key other : String) (value : α) :
    Data.valueOf? (Data.setEntry entries key value) other =
      if key = other then some value else Data.valueOf? entries other := by
  unfold Data.setEntry
  cases hany : entries.any (·.1 = key) with
  | true =>
    rw [if_pos rfl, valueOf?_replace]
    simp only [hany, and_true]
  | false => exact valueOf?_append entries key other value hany

/-- The declarations are read, and a label that was declared stands for its last IRI. -/
private theorem prologue_apply (ds : List Declaration) :
    ∀ (bound : Nat) (s : State) (rest : List Token), ds.length < bound →
    (∀ d ∈ ds, d.Fits) → Ahead (ds.flatMap Declaration.pieces) s.ahead rest →
    Token.isKeyword (rest.headD s.last) ["BASE"] = false → Token.isKeyword (rest.headD s.last) ["PREFIX"] = false →
    ∃ scope, prologue bound s = (.ok (), { s with ahead := rest, scope }) ∧ scope.patterns = s.scope.patterns ∧
      ∀ l, scope.prefixIri? l = (labelsOf ds l).or (s.scope.prefixIri? l) := by
  induction ds with
  | nil =>
    intro bound s rest hbound _ hahead hbase hprefix
    obtain ⟨bound, rfl⟩ := Nat.exists_eq_succ_of_ne_zero (Nat.ne_of_gt hbound)
    obtain rfl : s.ahead = rest := hahead
    have hbase' : s.token.isKeyword ["BASE"] = false := hbase
    have hprefix' : s.token.isKeyword ["PREFIX"] = false := hprefix
    refine ⟨s.scope, ?_, rfl, fun l => by simp [labelsOf]⟩
    simp only [prologue, bind_apply, atKeyword_apply, hbase', hprefix', Bool.false_eq_true, ↓reduceIte, pure_apply]
  | cons d ds ih =>
    intro bound s rest hbound hfits hahead hbase hprefix
    obtain ⟨bound, rfl⟩ := Nat.exists_eq_succ_of_ne_zero (Nat.ne_of_gt (Nat.zero_lt_of_lt hbound))
    rw [List.forall_mem_cons] at hfits
    cases d with
    | base iri =>
      obtain ⟨t, _, hts, ht, u, later, rfl, ⟨hu, htext⟩, hlater⟩ := hahead
      obtain ⟨scope, hrest, hpatterns, hlabels⟩ :=
        ih bound { s with ahead := later, scope := s.scope.setBase iri } rest (Nat.lt_of_succ_lt_succ hbound) hfits.2
          hlater hbase hprefix
      refine ⟨scope, ?_, hpatterns, hlabels⟩
      have hkeyword : t.isKeyword ["BASE"] = true := by simp [isKeyword_of_matches ht]
      have hiri : ({ s with ahead := u :: later } : State).token.kind = .iri := hu
      simp only [prologue, bind_apply, atKeyword_apply, token_of_ahead hts, hkeyword, ↓reduceIte, advance_apply, hts,
        List.tail_cons, expectIri, expect_apply hiri, pure_apply]
      simp only [State.token, List.headD_cons, htext, unwrap_brackets, collect_apply, hrest]
    | label l iri =>
      obtain ⟨t, _, hts, ht, u, _, rfl, ⟨hu, hname⟩, v, later, rfl, ⟨hv, htext⟩, hlater⟩ := hahead
      obtain ⟨scope, hrest, hpatterns, hlabels⟩ :=
        ih bound { s with ahead := later, scope := s.scope.addPrefix l iri } rest (Nat.lt_of_succ_lt_succ hbound)
          hfits.2 hlater hbase hprefix
      refine ⟨scope, ?_, hpatterns, fun x => ?_⟩
      · have hbase' : t.isKeyword ["BASE"] = false := by simp [isKeyword_of_matches ht]
        have hkeyword : t.isKeyword ["PREFIX"] = true := by simp [isKeyword_of_matches ht]
        have hlabel : ({ s with ahead := u :: v :: later } : State).token.kind = .prefixedName := hu
        have hiri : ({ s with ahead := v :: later } : State).token.kind = .iri := hv
        simp only [prologue, bind_apply, atKeyword_apply, token_of_ahead hts, hbase', hkeyword, ↓reduceIte,
          advance_apply, hts, List.tail_cons, Bool.false_eq_true, expect_apply hlabel]
        simp only [State.token, List.headD_cons, hname, splitName_eq hfits.1, ne_eq, not_true_eq_false, ↓reduceIte]
        simp only [bind_apply, expectIri, expect_apply hiri, advance_apply, pure_apply]
        simp only [State.token, List.headD_cons, htext, unwrap_brackets, collect_apply, List.tail_cons, hrest]
      · -- a label that is declared again later stands for the later IRI
        rw [hlabels x, labelsOf, Scope.prefixIri?, Scope.addPrefix, valueOf?_setEntry]
        cases labelsOf ds x <;> by_cases hx : l = x <;> simp [hx, Scope.prefixIri?]

/-! ### What is selected and from where -/

/-- A keyword that is at hand is taken. -/
theorem skipKeyword_keyword {words : List String} {word : String} {s : State} {t : Token} {later : List Token}
    (hts : s.ahead = t :: later) (ht : (Piece.keyword word).Matches t) (hword : word ∈ words) :
    skipKeyword words s = (.ok (), { s with ahead := later }) := by
  have hkeyword : t.isKeyword words = true := by
    rw [isKeyword_of_matches ht]
    exact List.contains_iff_mem.2 hword
  simp only [skipKeyword_apply, token_of_ahead hts, hkeyword, ↓reduceIte, hts, List.tail_cons]

private theorem skipKeyword_other {words : List String} {s : State} (h : s.token.isKeyword words = false) :
    skipKeyword words s = (.ok (), s) := by
  simp only [skipKeyword_apply, h, Bool.false_eq_true, ↓reduceIte]

/-- The token starts something selected. -/
def Token.StartsSelected (t : Token) : Prop := t.kind = .var ∨ t.kind = .symbol .openParen

private theorem Selected.starts (item : Selected) : StartsWith Token.StartsSelected item.pieces := by
  cases item with
  | var mark x => exact startsWith_exact fun t ht => Or.inl ht
  | expression inside =>
    rw [Selected.pieces, bracketPieces, Skipped.pieces, List.cons_append]
    exact ⟨_, _, rfl, fun t ht => Or.inr ht.1⟩

private theorem length_le_flatMap {β : Type} {pieces : β → List Piece} (items : List β)
    (hpos : ∀ item ∈ items, 0 < (pieces item).length) : items.length ≤ (items.flatMap pieces).length := by
  induction items with
  | nil => simp
  | cons item items ih =>
    rw [List.forall_mem_cons] at hpos
    have hothers := ih hpos.2
    have hfirst := hpos.1
    simp only [List.flatMap_cons, List.length_append, List.length_cons]
    omega

/-- Everything selected is read and counted. -/
private theorem projections_apply (selected : List Selected) : ∀ (bound : Nat) (s : State) (rest : List Token),
    selected.length < bound → (∀ item ∈ selected, item.Fits) →
    Ahead (selected.flatMap Selected.pieces) s.ahead rest → ¬ Token.StartsSelected (rest.headD s.last) →
    projections bound s = (.ok selected.length, { s with ahead := rest }) := by
  induction selected with
  | nil =>
    intro bound s rest hbound _ hahead hend
    obtain ⟨bound, rfl⟩ := Nat.exists_eq_succ_of_ne_zero (Nat.ne_of_gt hbound)
    obtain rfl : s.ahead = rest := hahead
    have hvar : s.token.kind ≠ .var := fun h => hend (Or.inl h)
    have hparen : s.token.kind ≠ .symbol .openParen := fun h => hend (Or.inr h)
    simp only [projections, bind_apply, token_apply]
    cases hkind : s.token.kind with
    | var => exact absurd hkind hvar
    | symbol x =>
      cases x with
      | openParen => exact absurd hkind hparen
      | _ => rfl
    | _ => rfl
  | cons item selected ih =>
    intro bound s rest hbound hfits hahead hend
    obtain ⟨bound, rfl⟩ := Nat.exists_eq_succ_of_ne_zero (Nat.ne_of_gt (Nat.zero_lt_of_lt hbound))
    rw [List.forall_mem_cons] at hfits
    rw [List.flatMap_cons, ahead_append] at hahead
    obtain ⟨later, hitem, hothers⟩ := hahead
    have hrest := ih bound { s with ahead := later } rest (Nat.lt_of_succ_lt_succ hbound) hfits.2 hothers hend
    cases item with
    | var mark x =>
      obtain ⟨t, _, hts, ⟨ht, -⟩, rfl⟩ := hitem
      simp only [projections, bind_apply, token_apply, token_of_ahead hts, ht, advance_apply, hts, List.tail_cons,
        hrest, pure_apply, List.length_cons]
    | expression inside =>
      have hskip := skipBrackets_apply hfits.1 hitem
      rw [Selected.pieces, bracketPieces, Skipped.pieces, List.cons_append] at hitem
      obtain ⟨t, _, hts, ⟨ht, -⟩, -⟩ := hitem
      simp only [projections, bind_apply, token_apply, token_of_ahead hts, ht, Bracket.opening, hskip, hrest,
        pure_apply, List.length_cons]

private theorem Selection.starts (selection : Selection) :
    StartsWith (fun t => t.kind = .symbol .star ∨ t.StartsSelected) selection.pieces := by
  cases selection with
  | everything => exact startsWith_exact fun t ht => Or.inl ht
  | items first others => exact ((Selected.starts first).append _).mono fun t ht => Or.inr ht

private theorem repetition_apply {repetition : Repetition} {selection : Selection} {s : State} {rest : List Token}
    (hahead : Ahead (repetition.pieces ++ selection.pieces) s.ahead rest) :
    ∃ later, skipKeyword ["DISTINCT", "REDUCED"] s = (.ok (), { s with ahead := later }) ∧
      Ahead selection.pieces later rest := by
  cases repetition with
  | all =>
    have hkind : s.token.kind ≠ .word := by
      rcases (Selection.starts selection).head hahead s.last with h | h | h <;> simp only [State.token, h] <;> simp
    exact ⟨s.ahead, skipKeyword_other (isKeyword_of_kind hkind _), hahead⟩
  | distinct | reduced =>
    obtain ⟨t, later, hts, ht, hlater⟩ := hahead
    exact ⟨later, skipKeyword_keyword hts ht (by simp), hlater⟩

/-- What a query selects is read. -/
private theorem selectClause_apply {bound : Nat} {repetition : Repetition} {selection : Selection} {s : State}
    {rest : List Token} (hfits : selection.Fits) (hbound : selection.pieces.length < bound)
    (hahead : Ahead (.keyword "SELECT" :: repetition.pieces ++ selection.pieces) s.ahead rest)
    (hend : ¬ Token.StartsSelected (rest.headD s.last)) :
    selectClause bound s = (.ok (), { s with ahead := rest }) := by
  obtain ⟨t, _, hts, ht, hlater⟩ := hahead
  obtain ⟨later, hskip, hselection⟩ := repetition_apply (s := { s with ahead := _ }) hlater
  have hselect : s.token.isKeyword ["SELECT"] = true := by simp [token_of_ahead hts, isKeyword_of_matches ht]
  simp only [selectClause, bind_apply, expectKeyword_apply hselect, advance_apply, hts, List.tail_cons, hskip,
    atSymbol_apply]
  cases selection with
  | everything =>
    obtain ⟨u, _, rfl, ⟨hu, -⟩, rfl⟩ := hselection
    simp only [State.token, List.headD_cons, hu, decide_true, ↓reduceIte, bind_apply, advance_apply, List.tail_cons,
      pure_apply]
  | items first others =>
    have hstar : Token.kind (later.headD s.last) ≠ .symbol .star := by
      rcases ((Selected.starts first).append _).head hselection s.last with h | h <;> rw [h] <;> simp
    have hall : ∀ item ∈ first :: others, item.Fits := List.forall_mem_cons.2 hfits
    have hlength : (first :: others).length ≤ (Selection.items first others).pieces.length :=
      length_le_flatMap (first :: others) fun item _ => (Selected.starts item).pos
    have hcount := projections_apply (first :: others) bound { s with ahead := later } rest (by omega) hall hselection
      hend
    simp only [State.token, hstar, decide_false, Bool.false_eq_true, ↓reduceIte, bind_apply, hcount, List.length_cons,
      Nat.add_one_ne_zero, pure_apply]

private theorem name_isKeyword {name : Name} {t : Token} (h : name.piece.Matches t) (words : List String) :
    t.isKeyword words = false := by
  refine isKeyword_of_kind ?_ words
  cases name <;> simp [h.1]

/-- The name of a graph is read. -/
private theorem datasetName_apply {name : Name} (hdeclared : name.Declared labels) {s : State} {t : Token}
    {later : List Token}
    (hs : ∀ l, s.scope.prefixIri? l = labels l) (hts : s.ahead = t :: later) (ht : name.piece.Matches t)
    (next : Parser Unit) :
    (do
      if (← token).kind = Kind.prefixedName then let _ ← resolveName (← advance)
      else let _ ← expectIri "a graph IRI"
      next) s = next { s with ahead := later } := by
  cases name with
  | full iri =>
    have hkind : s.token.kind = .iri := by rw [token_of_ahead hts]; exact ht.1
    have hother : s.token.kind ≠ .prefixedName := by simp [hkind]
    simp only [bind_apply, token_apply, hother, ↓reduceIte, expectIri, expect_apply hkind, advance_apply, pure_apply,
      hts, List.tail_cons]
  | short label part =>
    have hkind : t.kind = .prefixedName := ht.1
    have hname := resolveName_apply (s := { s with ahead := later }) hdeclared hs ht.2
    simp only [bind_apply, token_apply, hkind, ↓reduceIte, advance_apply, token_of_ahead hts, hts, List.tail_cons,
      hname]

/-- The graphs that a query is asked of are read. -/
private theorem datasets_apply (ds : List Dataset) :
    ∀ (bound : Nat) (s : State) (rest : List Token), ds.length < bound →
    (∀ d ∈ ds, d.name.Declared labels) → (∀ l, s.scope.prefixIri? l = labels l) →
    Ahead (ds.flatMap Dataset.pieces) s.ahead rest → Token.isKeyword (rest.headD s.last) ["FROM"] = false →
    datasets bound s = (.ok (), { s with ahead := rest }) := by
  induction ds with
  | nil =>
    intro bound s rest hbound _ _ hahead hend
    obtain ⟨bound, rfl⟩ := Nat.exists_eq_succ_of_ne_zero (Nat.ne_of_gt hbound)
    obtain rfl : s.ahead = rest := hahead
    have hfrom : s.token.isKeyword ["FROM"] = false := hend
    simp only [datasets, bind_apply, atKeyword_apply, hfrom, Bool.false_eq_true, ↓reduceIte, pure_apply]
  | cons d ds ih =>
    intro bound s rest hbound hdeclared hs hahead hend
    obtain ⟨bound, rfl⟩ := Nat.exists_eq_succ_of_ne_zero (Nat.ne_of_gt (Nat.zero_lt_of_lt hbound))
    rw [List.forall_mem_cons] at hdeclared
    obtain ⟨isNamed, name⟩ := d
    obtain ⟨t, _, hts, ht, hlater⟩ := hahead
    have hfrom : t.isKeyword ["FROM"] = true := by simp [isKeyword_of_matches ht]
    simp only [datasets, bind_apply, atKeyword_apply, token_of_ahead hts, hfrom, ↓reduceIte, advance_apply, hts,
      List.tail_cons]
    cases isNamed with
    | false =>
      obtain ⟨u, later, rfl, hu, hothers⟩ := hlater
      have hrest := ih bound { s with ahead := later } rest (Nat.lt_of_succ_lt_succ hbound) hdeclared.2 hs hothers hend
      have hskip : skipKeyword ["NAMED"] { s with ahead := u :: later } = _ := skipKeyword_other (name_isKeyword hu _)
      simp only [hskip]
      exact (datasetName_apply hdeclared.1 (s := { s with ahead := u :: later }) hs rfl hu (datasets bound)).trans hrest
    | true =>
      obtain ⟨u, _, rfl, hu, v, later, rfl, hv, hothers⟩ := hlater
      have hrest := ih bound { s with ahead := later } rest (Nat.lt_of_succ_lt_succ hbound) hdeclared.2 hs hothers hend
      have hskip : skipKeyword ["NAMED"] { s with ahead := u :: v :: later } = _ :=
        skipKeyword_keyword rfl hu (by simp)
      simp only [hskip]
      exact (datasetName_apply hdeclared.1 (s := { s with ahead := v :: later }) hs rfl hv (datasets bound)).trans hrest

/-! ### Modifiers -/

/-- The token ends a condition. -/
def Token.EndsCondition (t : Token) : Prop := t.kind = .eof ∨ t.isKeyword modifierKeywords = true

private theorem skipCondition_apply (conditions : List Skipped) : ∀ (bound : Nat) (s : State) (rest : List Token),
    conditions.length < bound → skippedFit conditions → (∀ item ∈ conditions, IsPlain item) →
    Ahead (skippedPieces conditions) s.ahead rest → Token.EndsCondition (rest.headD s.last) →
    skipCondition bound s = (.ok conditions.length, { s with ahead := rest }) := by
  induction conditions with
  | nil =>
    intro bound s rest hbound _ _ hahead hend
    obtain ⟨bound, rfl⟩ := Nat.exists_eq_succ_of_ne_zero (Nat.ne_of_gt hbound)
    rw [skippedPieces] at hahead
    obtain rfl : s.ahead = rest := hahead
    have hstop : (decide (s.token.kind = .eof) || s.token.isKeyword modifierKeywords) = true := by
      have hstop : s.token.EndsCondition := hend
      rcases hstop with h | h <;> simp [h]
    simp only [skipCondition, bind_apply, token_apply, hstop, ↓reduceIte, pure_apply, List.length_nil]
  | cons item conditions ih =>
    intro bound s rest hbound hfits hplain hahead hend
    obtain ⟨bound, rfl⟩ := Nat.exists_eq_succ_of_ne_zero (Nat.ne_of_gt (Nat.zero_lt_of_lt hbound))
    rw [skippedFit] at hfits
    rw [List.forall_mem_cons] at hplain
    rw [skippedPieces, ahead_append] at hahead
    obtain ⟨later, hitem, hothers⟩ := hahead
    have hrest := ih bound { s with ahead := later } rest (Nat.lt_of_succ_lt_succ hbound) hfits.2 hplain.2 hothers hend
    cases item with
    | token kind text =>
      rw [Skipped.pieces] at hitem
      obtain ⟨t, _, hts, ⟨ht, htext⟩, rfl⟩ := hitem
      -- a plain token neither ends the condition nor opens a bracket
      have hgo : (decide (t.kind = .eof) || t.isKeyword modifierKeywords) = false := by
        obtain ⟨heof, hword⟩ := hplain.1
        by_cases hkind : kind = .word
        · have := hword hkind
          simp [Token.isKeyword, ht, htext, hkind, this]
        · simp [Token.isKeyword, ht, heof, hkind]
      have hclosing : t.closing?.isSome = false := by
        have hbracket := hfits.1
        rw [Skipped.Fits] at hbracket
        cases kind with
        | symbol x =>
          have hno := hbracket x rfl
          rw [isBracket, Bool.or_eq_false_iff] at hno
          simpa [Token.closing?, ht] using hno.1
        | _ => simp [Token.closing?, ht]
      simp only [skipCondition, bind_apply, token_apply, token_of_ahead hts, hgo, hclosing, Bool.false_eq_true,
        ↓reduceIte, advance_apply, hts, List.tail_cons, hrest, pure_apply, List.length_cons]
    | bracket shape inside =>
      have hskip := skipBrackets_apply (by simpa only [Skipped.Fits] using hfits.1) hitem
      rw [Skipped.pieces, List.cons_append] at hitem
      obtain ⟨t, _, hts, ⟨ht, -⟩, -⟩ := hitem
      have hgo : (decide (t.kind = .eof) || t.isKeyword modifierKeywords) = false := by
        simp [ht, isKeyword_of_kind]
      have hclosing : t.closing?.isSome = true := by
        cases shape <;> simp [Token.closing?, ht, Bracket.opening, Symbol.closing?]
      simp only [skipCondition, bind_apply, token_apply, token_of_ahead hts, hgo, hclosing, Bool.false_eq_true,
        ↓reduceIte, hskip, hrest, pure_apply, List.length_cons]

mutual

private theorem skipped_pos : ∀ item : Skipped, 0 < item.pieces.length
  | .token kind text => by
    rw [Skipped.pieces]
    exact Nat.one_pos
  | .bracket shape inside => by
    rw [Skipped.pieces, List.cons_append]
    exact Nat.succ_pos _

private theorem length_le_skippedPieces : ∀ inside : List Skipped, inside.length ≤ (skippedPieces inside).length
  | [] => by simp
  | item :: inside => by
    have hfirst := skipped_pos item
    have hothers := length_le_skippedPieces inside
    simp only [skippedPieces, List.length_append, List.length_cons]
    omega

end

/-- The condition of a modifier is read. -/
private theorem condition_apply {bound : Nat} {c : Condition} {s : State} {rest : List Token} (hfits : c.Fits)
    (hbound : c.pieces.length < bound) (hahead : Ahead c.pieces s.ahead rest)
    (hend : Token.EndsCondition (rest.headD s.last)) : condition bound s = (.ok (), { s with ahead := rest }) := by
  have hpieces : c.pieces = skippedPieces (c.first :: c.others) := by rw [Condition.pieces, skippedPieces]
  have hlength := length_le_skippedPieces (c.first :: c.others)
  rw [hpieces] at hbound hahead
  have hskip := skipCondition_apply (c.first :: c.others) bound s rest (by omega) hfits.1 hfits.2 hahead hend
  simp only [condition, bind_apply, hskip, List.length_cons, Nat.add_one_ne_zero, ↓reduceIte, pure_apply]

/-- The keyword that the modifier starts with. -/
def Phrase.Modifier.word : Modifier → String
  | .limit _ => "LIMIT"
  | .offset _ => "OFFSET"
  | .groupBy _ => "GROUP"
  | .orderBy _ => "ORDER"
  | .having _ => "HAVING"

private theorem Modifier.starts (m : Modifier) : StartsWith (Piece.keyword m.word).Matches m.pieces := by
  cases m <;> exact ⟨_, _, rfl, fun _ h => h⟩

private theorem modifiers_head {ms : List Modifier} {ts rest : List Token} {last : Token}
    (hahead : Ahead (ms.flatMap Modifier.pieces) ts rest) (hend : Token.kind (rest.headD last) = .eof) :
    Token.EndsCondition (ts.headD last) := by
  cases ms with
  | nil =>
    obtain rfl : ts = rest := hahead
    exact Or.inl hend
  | cons m ms =>
    rw [List.flatMap_cons] at hahead
    have hword := ((Modifier.starts m).append _).head hahead last
    refine Or.inr ?_
    rw [isKeyword_of_matches hword]
    cases m <;> simp [Modifier.word, modifierKeywords]

/-- The modifiers are read up to the end of the query. -/
private theorem modifiers_apply (ms : List Modifier) : ∀ (bound : Nat) (s : State) (rest : List Token),
    (ms.flatMap Modifier.pieces).length < bound → (∀ m ∈ ms, m.Fits) →
    Ahead (ms.flatMap Modifier.pieces) s.ahead rest → Token.kind (rest.headD s.last) = .eof →
    modifiers bound s = (.ok (), { s with ahead := rest }) := by
  induction ms with
  | nil =>
    intro bound s rest hbound _ hahead hend
    obtain ⟨bound, rfl⟩ := Nat.exists_eq_succ_of_ne_zero (Nat.ne_of_gt (Nat.zero_lt_of_lt hbound))
    obtain rfl : s.ahead = rest := hahead
    have heof : s.token.kind = .eof := hend
    simp only [modifiers, bind_apply, token_apply, heof, ↓reduceIte, pure_apply]
  | cons m ms ih =>
    intro bound s rest hbound hfits hahead hend
    obtain ⟨bound, rfl⟩ := Nat.exists_eq_succ_of_ne_zero (Nat.ne_of_gt (Nat.zero_lt_of_lt hbound))
    rw [List.forall_mem_cons] at hfits
    rw [List.flatMap_cons, List.length_append] at hbound
    rw [List.flatMap_cons, ahead_append] at hahead
    obtain ⟨later, hm, hothers⟩ := hahead
    have hpos := (Modifier.starts m).pos
    have hrest := ih bound { s with ahead := later } rest (by omega) hfits.2 hothers hend
    -- what follows a condition is the end or another modifier, which no condition takes
    have hnext := modifiers_head hothers hend
    cases m with
    | limit digits | offset digits =>
      obtain ⟨t, _, hts, ht, u, after, rfl, ⟨hu, -⟩, rfl⟩ := hm
      have heof : t.kind ≠ .eof := by simp [ht.1]
      have hkeyword : t.isKeyword ["LIMIT", "OFFSET"] = true := by simp [isKeyword_of_matches ht]
      have hinteger : ({ s with ahead := u :: after } : State).token.kind = .integer := hu
      simp only [modifiers, bind_apply, token_apply, token_of_ahead hts, heof, hkeyword, ↓reduceIte, advance_apply, hts,
        List.tail_cons, expect_apply hinteger, hrest]
    | groupBy c | orderBy c =>
      obtain ⟨t, _, hts, ht, u, inside, rfl, hu, hc⟩ := hm
      have heof : t.kind ≠ .eof := by simp [ht.1]
      have hother : t.isKeyword ["LIMIT", "OFFSET"] = false := by simp [isKeyword_of_matches ht]
      have hkeyword : t.isKeyword ["GROUP", "ORDER"] = true := by simp [isKeyword_of_matches ht]
      have hby : ({ s with ahead := u :: inside } : State).token.isKeyword ["BY"] = true := by
        simp [State.token, isKeyword_of_matches hu]
      have hlength : c.pieces.length < bound := by
        simp only [Modifier.pieces, List.length_cons] at hbound
        omega
      have hcondition := condition_apply (s := { s with ahead := inside }) hfits.1 hlength hc hnext
      simp only [modifiers, bind_apply, token_apply, token_of_ahead hts, heof, hother, hkeyword, ↓reduceIte,
        advance_apply, hts, List.tail_cons, expectKeyword_apply hby, Bool.false_eq_true, hcondition, hrest]
    | having c =>
      obtain ⟨t, inside, hts, ht, hc⟩ := hm
      have heof : t.kind ≠ .eof := by simp [ht.1]
      have hother : t.isKeyword ["LIMIT", "OFFSET"] = false := by simp [isKeyword_of_matches ht]
      have hother' : t.isKeyword ["GROUP", "ORDER"] = false := by simp [isKeyword_of_matches ht]
      have hkeyword : t.isKeyword ["HAVING"] = true := by simp [isKeyword_of_matches ht]
      have hlength : c.pieces.length < bound := by
        simp only [Modifier.pieces, List.length_cons] at hbound
        omega
      have hcondition := condition_apply (s := { s with ahead := inside }) hfits.1 hlength hc hnext
      simp only [modifiers, bind_apply, token_apply, token_of_ahead hts, heof, hother, hother', hkeyword, ↓reduceIte,
        advance_apply, hts, List.tail_cons, Bool.false_eq_true, hcondition, hrest]

/-! ### Queries -/

/-- The tokens from the group on are read: the keyword that may stand before it, and the group itself. -/
private theorem where_settles {bound : Nat} (hasWhere : Bool) {g : Group} (hfits : g.Fits labels)
    (hbound : g.pieces.length + 2 ≤ bound) :
    Settles labels (do skipKeyword ["WHERE"]; group bound)
      ((if hasWhere then [.keyword "WHERE"] else []) ++ g.pieces) (g.reading labels) (fun _ => True) g.hasAbsence := by
  have hgroup := group_settles bound g hfits hbound
  cases hasWhere with
  | true =>
    refine hgroup.cons rfl fun s t later rest hts ht _ => ?_
    simp only [bind_apply, skipKeyword_keyword hts ht (List.mem_singleton_self _)]
  | false =>
    refine hgroup.congr (fun _ h => h) fun s rest hahead => ?_
    have hopen : s.token.kind = .symbol .openBrace := (Group.starts g).head hahead s.last
    simp only [bind_apply, skipKeyword_other (isKeyword_of_kind (show s.token.kind ≠ .word by simp [hopen]) ["WHERE"])]

/-- The token can be the first after the clauses before the group of a query. -/
def Token.StartsGroup (t : Token) : Prop := (Piece.keyword "WHERE").Matches t ∨ t.kind = .symbol .openBrace

private theorem Token.StartsGroup.not_startsSelected {t : Token} (h : t.StartsGroup) : ¬ t.StartsSelected := by
  have hkind : t.kind = .word ∨ t.kind = .symbol .openBrace := h.imp_left And.left
  rintro (h' | h') <;> simp [h'] at hkind

private theorem Token.StartsGroup.not_from {t : Token} (h : t.StartsGroup) : t.isKeyword ["FROM"] = false := by
  rcases h with h | h
  · rw [isKeyword_of_matches h]
    decide
  · exact isKeyword_of_kind (by rw [h]; simp) _

private theorem where_starts (hasWhere : Bool) (g : Group) :
    StartsWith Token.StartsGroup ((if hasWhere then [.keyword "WHERE"] else []) ++ g.pieces) := by
  cases hasWhere with
  | true => exact ⟨_, _, rfl, fun _ h => Or.inl h⟩
  | false => exact (Group.starts g).mono fun _ h => Or.inr h

/-- The clauses before the group of a query are read, and then a declared label stands for its last IRI. -/
theorem query_start {ds : List Declaration} {repetition : Repetition} {selection : Selection} {graphs : List Dataset}
    (bound : Nat) {ts rest : List Token} (last : Token) (hds : ∀ d ∈ ds, d.Fits) (hselection : selection.Fits)
    (hgraphs : ∀ d ∈ graphs, d.name.Declared (labelsOf ds)) (hbound : ts.length < bound)
    (hahead : Ahead (ds.flatMap Declaration.pieces ++ ((.keyword "SELECT" :: repetition.pieces ++ selection.pieces) ++
      graphs.flatMap Dataset.pieces)) ts rest) (hrest : Token.StartsGroup (rest.headD last)) :
    ∃ scope, query bound { ahead := ts, last, scope := {} } = queryRest bound { ahead := rest, last, scope } ∧
      scope.patterns = [] ∧ ∀ l, scope.prefixIri? l = labelsOf ds l := by
  have hlength := hahead.length
  simp only [List.length_append, List.length_cons] at hlength
  obtain ⟨ts₁, hdeclarations, hclauses⟩ := ahead_append.1 hahead
  obtain ⟨ts₂, hclause, hdatasets⟩ := ahead_append.1 hclauses
  have hselect : Token.isKeyword (ts₁.headD last) ["BASE"] = false ∧
      Token.isKeyword (ts₁.headD last) ["PREFIX"] = false := by
    obtain ⟨t, _, rfl, ht, -⟩ := hclause
    simp [isKeyword_of_matches ht]
  have hdeclared : ds.length ≤ (ds.flatMap Declaration.pieces).length :=
    length_le_flatMap ds fun d _ => by cases d <;> simp [Declaration.pieces]
  obtain ⟨scope, hprologue, hpatterns, hlabels⟩ := prologue_apply ds bound { ahead := ts, last, scope := {} } ts₁
    (by omega) hds hdeclarations hselect.1 hselect.2
  have hnames : ∀ l, scope.prefixIri? l = labelsOf ds l := fun l => (hlabels l).trans Option.or_none
  -- what is selected ends at the first graph or, if none is given, where the group starts
  have hends : ¬ Token.StartsSelected (ts₂.headD last) := by
    cases graphs with
    | nil =>
      obtain rfl : ts₂ = rest := hdatasets
      exact hrest.not_startsSelected
    | cons d graphs =>
      obtain ⟨t, _, rfl, ht, -⟩ := hdatasets
      rintro (h | h) <;> rw [List.headD_cons, ht.1] at h <;> cases h
  have hselected := selectClause_apply (s := { ahead := ts₁, last, scope }) hselection
    (show selection.pieces.length < bound by omega) hclause hends
  have hplaced : graphs.length ≤ (graphs.flatMap Dataset.pieces).length :=
    length_le_flatMap graphs fun d _ => by simp [Dataset.pieces]
  have hgiven := datasets_apply graphs bound { ahead := ts₂, last, scope } rest (by omega) hgraphs hnames hdatasets
    hrest.not_from
  refine ⟨scope, ?_, hpatterns, hnames⟩
  simp only [query_eq, bind_apply, hprologue, hselected, hgiven]

/-- The group of a query and the modifiers behind it are read, if the group nowhere tests for the absence of a group. -/
private theorem queryRest_settles {bound : Nat} (hasWhere : Bool) {g : Group} {ms : List Modifier} (hg : g.Fits labels)
    (hms : ∀ m ∈ ms, m.Fits) {s : State} (hs : Ready labels (markers g.pieces) s) (hlast : s.last.kind = .eof)
    (hbound : s.ahead.length + 2 ≤ bound)
    (hahead : Ahead (((if hasWhere then [.keyword "WHERE"] else []) ++ g.pieces) ++ ms.flatMap Modifier.pieces) s.ahead []) :
    if g.hasAbsence then ∃ start after, queryRest bound s = (.error (.at start .missingConstraint), after)
    else ∃ after, queryRest bound s = (.ok (), after) ∧
      after.scope.patterns = s.scope.patterns ++ (g.reading labels s.anonymous).patterns := by
  have hlength := hahead.length
  simp only [List.length_append, List.length_nil] at hlength
  obtain ⟨ts, hgroup, hmodifiers⟩ := ahead_append.1 hahead
  have hmarkers : markers ((if hasWhere then [.keyword "WHERE"] else []) ++ g.pieces) = markers g.pieces := by
    cases hasWhere <;> simp
  have hwhere := where_settles hasWhere hg (show g.pieces.length + 2 ≤ bound by omega) s ts (hmarkers ▸ hs) hgroup trivial
  cases habsence : g.hasAbsence with
  | true =>
    rw [habsence] at hwhere
    obtain ⟨start, after, hfail⟩ := hwhere
    simp only [bind_apply, skipKeyword_apply] at hfail
    refine ⟨start, after, ?_⟩
    simp only [queryRest, bind_apply, skipKeyword_apply, hfail]
  | false =>
    rw [habsence] at hwhere
    obtain ⟨after, hok, hmoves⟩ := hwhere
    have hend : after.last.kind = .eof := hmoves.last ▸ hlast
    have hread := modifiers_apply ms bound after [] (by omega) hms (hmoves.ahead ▸ hmodifiers) hend
    have heof : ({ after with ahead := [] } : State).token.kind = .eof := hend
    simp only [bind_apply, skipKeyword_apply] at hok
    refine ⟨{ after with ahead := [] }, ?_, hmoves.patterns⟩
    simp only [queryRest, bind_apply, skipKeyword_apply, hok, hread, expect_apply heof, advance_apply, List.tail_nil,
      pure_apply]

/-- The tokens of a phrase are read into its patterns, unless a filter in it tests for absence, which is refused. -/
theorem parseTokens_settles {q : Phrase} (hq : q.Fits) {ts : List Token} (hts : Spells ts q) (length : Nat) :
    if q.group.hasAbsence then ∃ start scope, parseTokens {} ts length = (.error (.at start .missingConstraint), scope)
    else ∃ scope, parseTokens {} ts length = (.ok (), scope) ∧ scope.patterns = q.patterns := by
  have hahead := ahead_of_forall₂ hts
  have hpieces : q.pieces = (q.declarations.flatMap Declaration.pieces ++
      ((.keyword "SELECT" :: q.repetition.pieces ++ q.selection.pieces) ++ q.datasets.flatMap Dataset.pieces)) ++
        (((if q.hasWhere then [.keyword "WHERE"] else []) ++ q.group.pieces) ++
          q.modifiers.flatMap Modifier.pieces) := by
    simp only [Phrase.pieces, List.append_assoc, List.cons_append]
  rw [hpieces] at hahead
  have hlength := hahead.length
  obtain ⟨middle, hclauses, hgroup⟩ := ahead_append.1 hahead
  have hmiddle := hgroup.length
  simp only [List.length_append, List.length_nil] at hlength hmiddle
  have hstart := ((where_starts q.hasWhere q.group).append _).head hgroup (.eof length)
  obtain ⟨scope, hquery, hpatterns, hlabels⟩ := query_start (ts.length + 2) (.eof length) hq.declarations hq.selection
    hq.datasets (by omega) hclauses hstart
  have hready : Ready q.labels (markers q.group.pieces) { ahead := middle, last := .eof length, scope } :=
    ⟨hlabels, by simpa using hq.markers⟩
  have hrest := queryRest_settles q.hasWhere hq.group hq.modifiers hready rfl
    (show middle.length + 2 ≤ ts.length + 2 by omega) hgroup
  split at hrest
  next habsence =>
    obtain ⟨start, after, hfail⟩ := hrest
    rw [if_pos habsence]
    exact ⟨start, after.scope, by rw [parseTokens, hquery, hfail]⟩
  next habsence =>
    obtain ⟨after, hok, hread⟩ := hrest
    rw [if_neg habsence]
    refine ⟨after.scope, by rw [parseTokens, hquery, hok], ?_⟩
    rw [hread, hpatterns]
    rfl

/-- The patterns that the parser finds in the tokens of a query are those that the query stands for, in order. The
parser accepts the query just if it nowhere tests for the absence of a group: after the two words of such a test it
looks for a constraint in vain. -/
theorem parseTokens_patterns {q : Phrase} (hq : q.Fits) {ts : List Token} (hts : Spells ts q) (length : Nat) :
    (q.group.hasAbsence = false →
      ∃ scope, parseTokens {} ts length = (.ok (), scope) ∧ scope.patterns = q.patterns) ∧
    (q.group.hasAbsence = true →
      ∃ start scope, parseTokens {} ts length = (.error (.at start .missingConstraint), scope)) := by
  have hsettles := parseTokens_settles hq hts length
  refine ⟨fun habsence => ?_, fun habsence => ?_⟩
  · rwa [habsence] at hsettles
  · rwa [habsence] at hsettles

/-- In `SELECT * { [ < ( ?a ) ] }` the node in brackets takes the first made-up variable and the list the second, but
the patterns of the list come first. -/
theorem parseTokens_patterns_nested :
    ∃ scope, parseTokens {} [⟨.word, "SELECT", 0, 6⟩, ⟨.symbol .star, "*", 7, 8⟩, ⟨.symbol .openBrace, "\x7b", 9, 10⟩,
        ⟨.symbol .openBracket, "[", 11, 12⟩, ⟨.focus .none, "<", 13, 14⟩, ⟨.symbol .openParen, "(", 15, 16⟩,
        ⟨.var, "?a", 17, 19⟩, ⟨.symbol .closeParen, ")", 20, 21⟩, ⟨.symbol .closeBracket, "]", 22, 23⟩,
        ⟨.symbol .closeBrace, "\x7d", 24, 25⟩] 25 = (.ok (), scope) ∧
      scope.patterns = [
        { subject := madeUp 1, predicate := .iri firstIri, object := .var "a" },
        { subject := madeUp 1, predicate := .iri restIri, object := .iri nilIri },
        { subject := madeUp 0, predicate := .focus, object := madeUp 1 }] := by
  let q : Phrase := {
    selection := .everything, hasWhere := false,
    group := .braces [.block ⟨.blank (.last (.focus .none) [.collection [.atom (.var '?' "a")]] 0), none⟩] }
  have hq : q.Fits := by
    refine ⟨by simp [q], trivial, by simp [q], ?_, by simp [q], by decide⟩
    simp [q, Group.Fits, elementsFit, Element.Fits, Block.Fits, Node.Fits, Properties.Fits, nodesFit, Verb.Fits,
      HintFits, Atom.Fits, Node.isCompound, Node.isBlank]
  refine (parseTokens_patterns hq (?_ : Spells _ q) 25).1 (by decide)
  exact .cons ⟨rfl, by decide⟩ (.cons ⟨rfl, rfl⟩ (.cons ⟨rfl, rfl⟩ (.cons ⟨rfl, rfl⟩ (.cons ⟨rfl, rfl⟩
    (.cons ⟨rfl, rfl⟩ (.cons ⟨rfl, rfl⟩ (.cons ⟨rfl, rfl⟩ (.cons ⟨rfl, rfl⟩ (.cons ⟨rfl, rfl⟩ .nil)))))))))

end PointOfFocus.Query
