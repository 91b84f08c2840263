import PointOfFocus.Proofs.Query.PathWriting

/-!
# Groups at which the parser stops

The pieces at hand can be such that the parser stops with a fault, whatever comes after them: a subject that is none, a
subject without a predicate, a predicate that is not read, a predicate without an object. A block of triples that starts
with them is not read, nor is a group with such a block after blocks that are read (`StopsGroup.after_block`), nor a query
with such a group (`parseTokens_refuses`).
-/

namespace PointOfFocus.Query

open PointOfFocus.Rdf
open Phrase

/-! ### Blocks of triples that are not read -/

section

variable {labels : Labels} {bound : Nat} {a : Atom} {qs : List Piece}

/-- A block of triples is not read where its subject is none. -/
theorem triples_refuses_subject {ps : List Piece} (h : Refuses labels (simpleTerm .subject) ps)
    (hfirst : StartsWith Token.OpensNothing ps) : Refuses labels (triples bound) ps := by
  intro s rest hs hahead
  obtain ⟨e, after, hterm⟩ := h s rest hs hahead
  obtain ⟨hbracket, hparen⟩ : s.token.OpensNothing := hfirst.head hahead s.last
  refine ⟨e, after, ?_⟩
  simp only [triples, graphNode, bind_apply, atBlankNode_apply, atSymbol_apply, hbracket, hparen, decide_false,
    Bool.false_and, Bool.false_eq_true, ↓reduceIte, hterm]

/-- What the parser does after a subject that is a single term. -/
def afterSubject (bound : Nat) : Parser Unit := do
  if (← token).startsVerb then propertyList (object bound) bound
  else fail (.expected "a predicate" (← token))

/-- After a subject that is a single term it depends on the rest whether a block is read. -/
theorem triples_refuses_afterSubject (hfits : a.Fits labels)
    (hfirst : StartsWith (fun t => a.IsPlainText → t.EndsText) qs)
    (h : Refuses labels (afterSubject bound) qs) : Refuses labels (triples bound) (a.pieces ++ qs) := by
  intro s rest hs hahead
  obtain ⟨middle, hsubject, hqs⟩ := ahead_append.1 hahead
  rw [markers_append] at hs
  obtain ⟨hbracket, hparen⟩ : s.token.OpensNothing := (Atom.opensNothing a).head hsubject s.last
  obtain ⟨t, hterm, hmoves, -⟩ := simpleTerm_reads_before .subject hfits s middle
    (hs.after (Moves.refl rfl) (by omega)) hsubject (hfirst.head hqs s.last)
  have hset : Moves s { t with scope := t.scope.setSubject (a.term labels) } middle s.anonymous (markers a.pieces) [] :=
    ⟨hmoves.ahead, hmoves.last, hmoves.next, hmoves.marks, hmoves.patterns, hmoves.labels⟩
  obtain ⟨e, after, hrest⟩ := h { t with scope := t.scope.setSubject (a.term labels) } rest
    (hs.after hset (by omega)) (hset.ahead ▸ hqs)
  refine ⟨e, after, ?_⟩
  simp only [triples, graphNode, bind_apply, atBlankNode_apply, atSymbol_apply, hbracket, hparen, decide_false,
    Bool.false_and, Bool.not_false, Bool.and_self, Bool.false_eq_true, ↓reduceIte, hterm, collect_apply, token_apply]
  simpa only [afterSubject, bind_apply, token_apply] using hrest

private theorem afterSubject_noVerb {s : State} (h : s.token.startsVerb = false) :
    ∃ e after, afterSubject bound s = (.error e, after) := by
  have hfail : afterSubject bound s = (fail (.expected "a predicate" s.token) : Parser Unit) s := by
    simp only [afterSubject, bind_apply, token_apply, h, Bool.false_eq_true, ↓reduceIte]
  exact ⟨_, _, hfail.trans (fail_apply _ s)⟩

/-- After a subject there has to be a verb. -/
theorem afterSubject_refuses_noVerb (hfirst : StartsWith (·.startsVerb = false) qs) :
    Refuses labels (afterSubject bound) qs :=
  fun s _ _ hahead => afterSubject_noVerb (hfirst.head hahead s.last)

/-- The properties of a subject are not read where their first predicate is not. -/
theorem afterSubject_refuses_verb (h : ∀ b, bound = b + 1 → Refuses labels (verb b) qs) :
    Refuses labels (afterSubject bound) qs := by
  intro s rest hs hahead
  cases hverb : s.token.startsVerb with
  | false => exact afterSubject_noVerb hverb
  | true =>
    have hlist : afterSubject bound s = propertyList (object bound) bound s := by
      simp only [afterSubject, bind_apply, token_apply, hverb, ↓reduceIte]
    cases bound with
    | zero => exact ⟨_, _, hlist.trans (fail_apply _ s)⟩
    | succ b =>
      obtain ⟨e, after, hfail⟩ := h b rfl s rest hs hahead
      exact ⟨e, after, by rw [hlist, propertyList, bind_apply, hfail]⟩

/-- A predicate is not read where it is neither a variable nor the point of focus and its path is not read. -/
theorem verb_refuses (h : Refuses labels (path bound) qs) (hfirst : StartsWith Token.NoTerm qs) :
    Refuses labels (verb bound) qs := by
  intro s rest hs hahead
  obtain ⟨hvar, hfocus⟩ : s.token.NoTerm := hfirst.head hahead s.last
  obtain ⟨e, after, hpath⟩ := h s rest hs hahead
  refine ⟨e, after, ?_⟩
  simp only [verb, bind_apply, token_apply]
  cases hkind : s.token.kind with
  | focus hint => exact absurd hkind (hfocus hint)
  | var => exact absurd hkind hvar
  | _ => exact hpath

/-- Only the point of focus has no object. -/
theorem afterSubject_refuses_object {v : Verb} (hfits : v.Fits labels) (hterm : (v.term labels).isFocus = false)
    (hbound : v.pieces.length + 1 < bound) (hfirst : StartsWith (fun t => t.EndsPath ∧ t.startsObject = false) qs) :
    Refuses labels (afterSubject bound) (v.pieces ++ qs) := by
  intro s rest hs hahead
  obtain ⟨b, rfl⟩ := Nat.exists_eq_succ_of_ne_zero (Nat.ne_of_gt (Nat.zero_lt_of_lt hbound))
  obtain ⟨middle, hpredicate, hqs⟩ := ahead_append.1 hahead
  rw [markers_append] at hs
  have hverb : s.token.startsVerb = true := (Verb.starts v).head hpredicate s.last
  obtain ⟨hends, hobject⟩ := hfirst.head hqs s.last
  obtain ⟨after, hread, hmoves, -⟩ := verb_reads hfits (show v.pieces.length < b by omega) s middle
    (hs.after (Moves.refl rfl) (by omega)) hpredicate hends
  obtain ⟨next, hnext⟩ : ∃ next : State, next = { after with scope := after.scope.setPredicate (v.term labels) } :=
    ⟨_, rfl⟩
  have hnone : next.token.startsObject = false := by
    rw [hnext, State.token, hmoves.ahead, hmoves.last]
    exact hobject
  have hlist : objectList (object (b + 1)) b (v.term labels) next =
      (fail (.expected "an object" next.token) : Parser Unit) next := by
    simp only [objectList, bind_apply, token_apply, hnone, hterm, Bool.false_eq_true, ↓reduceIte]
  refine ⟨.at next.token.start (.expected "an object" next.token), next, ?_⟩
  rw [fail_apply] at hlist
  simp only [afterSubject, propertyList, bind_apply, token_apply, hverb, ↓reduceIte, hread, collect_apply, ← hnext, hlist]

end

/-! ### Groups that are not read -/

/-- The parser stops in a group where the pieces are at hand. -/
def StopsGroup (ps : List Piece) : Prop :=
  ∀ group opening bound, ps.length + 3 ≤ bound → Refuses noLabels (elements group opening bound) ps

/-- Pieces that start a block of triples but are refused as one stop the group. -/
theorem stopsGroup_of_triples {ps : List Piece}
    (h : ∀ bound, ps.length + 1 < bound → Refuses noLabels (triples bound) ps)
    (hfirst : StartsWith Token.StartsNode ps) : StopsGroup ps := by
  intro group opening bound hbound s rest hs hahead
  obtain ⟨b, rfl⟩ := Nat.exists_eq_succ_of_ne_zero (show bound ≠ 0 by omega)
  obtain ⟨e, after, hfail⟩ := h b (by omega) s rest hs hahead
  refine ⟨e, after, ?_⟩
  rw [elements_block (hfirst.head hahead s.last)]
  simp only [bind_apply, hfail]

/-- The question mark stands for no term. -/
theorem stopsGroup_question (text : String) (ps : List Piece) : StopsGroup (.exact (.symbol .question) text :: ps) := by
  intro group opening bound hbound s rest _ hahead
  obtain ⟨b, rfl⟩ := Nat.exists_eq_succ_of_ne_zero (show bound ≠ 0 by omega)
  obtain ⟨t, later, hts, ⟨hkind, -⟩, -⟩ := hahead
  have htoken := token_of_ahead hts
  have hkeyword : t.isKeyword elementKeywords = false := isKeyword_of_kind (by simp [hkind]) _
  have hterm : simpleTerm .subject s = (.error (.at t.start (.expected "a subject" t)), s) := by
    simp only [simpleTerm, bind_apply, token_apply, htoken, hkind, Token.isTruth, reduceCtorEq, decide_false,
      Bool.false_and, Bool.false_eq_true, ↓reduceIte]
    rw [fail_apply, htoken]
    rfl
  refine ⟨.at t.start (.expected "a subject" t), s, ?_⟩
  simp only [elements, triples, graphNode, bind_apply, token_apply, atBlankNode_apply, atSymbol_apply, htoken, hkind,
    hkeyword, reduceCtorEq, Kind.symbol.injEq, decide_false, Bool.false_and, Bool.false_eq_true, ↓reduceIte, hterm]

/-- A block of triples that is read does not help. -/
theorem StopsGroup.after_block {ps : List Piece} (h : StopsGroup ps) {b : Block} (hfits : b.Fits noLabels) :
    StopsGroup (b.pieces ++ symbol .dot :: ps) := by
  intro group opening bound hbound s rest hs hahead
  rw [List.length_append, List.length_cons] at hbound
  obtain ⟨b₁, rfl⟩ := Nat.exists_eq_succ_of_ne_zero (show bound ≠ 0 by omega)
  obtain ⟨b₂, rfl⟩ := Nat.exists_eq_succ_of_ne_zero (show b₁ ≠ 0 by omega)
  have hnode := ((Block.startsNode b).append _).head hahead s.last
  obtain ⟨_, hblock, t, later, rfl, ⟨hdot, -⟩, hps⟩ := ahead_append.1 hahead
  rw [markers_append, markers_cons] at hs
  have hpos := (Block.startsNode b).pos
  obtain ⟨after, hread, hmoves⟩ := triples_settles hfits (show b.pieces.length + 1 < b₂ + 1 by omega) s
    (t :: later) (hs.after (Moves.refl rfl) (by omega)) hblock (endsProperties_of_symbol hdot (by simp))
  obtain ⟨e, stopped, hfail⟩ := h group opening b₂ (by omega) { after with ahead := after.ahead.tail } rest
    (hs.after hmoves.then_take (by omega)) (by rw [hmoves.ahead]; exact hps)
  have htoken : after.token.kind = .symbol .dot := by rw [State.token, hmoves.ahead]; exact hdot
  have hends : after.token.endsTriples = true := by simp [Token.endsTriples, htoken]
  refine ⟨e, stopped, ?_⟩
  rw [elements_block hnode]
  simp only [bind_apply, hread, token_apply, hends, Bool.not_true, Bool.false_eq_true, ↓reduceIte]
  simp only [elements, bind_apply, token_apply, htoken, advance_apply, hfail]

private theorem group_refuses {ps : List Piece} (h : StopsGroup ps) {bound : Nat} (hbound : ps.length + 4 ≤ bound) :
    Refuses noLabels (group bound) (symbol .openBrace :: ps) := by
  intro s rest hs hahead
  obtain ⟨b, rfl⟩ := Nat.exists_eq_succ_of_ne_zero (show bound ≠ 0 by omega)
  obtain ⟨t, later, hts, ⟨ht, -⟩, hps⟩ := hahead
  have hopen : s.token.kind = .symbol .openBrace := by rw [token_of_ahead hts, ht]
  rw [markers_cons] at hs
  obtain ⟨e, after, hfail⟩ := h (group b) t b (by omega) { s with ahead := later } rest
    (hs.after (Moves.to s later) (by omega)) hps
  have hgroup : group (b + 1) s =
      (do
        if ← atKeyword ["SELECT"] then fail .subQuery
        elements (group b) t b) { s with ahead := later } := by
    simp only [group, bind_apply, expectSymbol_apply hopen, advance_apply, token_of_ahead hts, hts, List.tail_cons]
  rw [Nat.succ_eq_add_one, hgroup]
  cases hselect : ({ s with ahead := later } : State).token.isKeyword ["SELECT"] with
  | true =>
    refine ⟨.at ({ s with ahead := later } : State).token.start .subQuery, { s with ahead := later }, ?_⟩
    simp only [bind_apply, atKeyword_apply, hselect, ↓reduceIte, fail_apply]
  | false =>
    refine ⟨e, after, ?_⟩
    simp only [bind_apply, atKeyword_apply, hselect, Bool.false_eq_true, ↓reduceIte, hfail]

/-- A query is not read where its group is not. -/
theorem parseTokens_refuses {item : Selected} (hitem : item.Fits) {ps : List Piece} (h : StopsGroup ps)
    (hmarkers : markers ps = 0) {ts rest : List Token} (hahead : Ahead
      ((.keyword "SELECT" :: .keyword "DISTINCT" :: item.pieces) ++ [.keyword "WHERE", symbol .openBrace] ++ ps) ts rest)
    (length : Nat) : ∃ e scope, parseTokens {} ts length = (.error e, scope) := by
  have hlength := hahead.length
  simp only [List.length_append, List.length_cons, List.length_nil] at hlength
  rw [List.append_assoc] at hahead
  obtain ⟨_, hselection, u, ts₁, rfl, hwhere, hgroup⟩ := ahead_append.1 hahead
  have hselected : Ahead (([] : List Declaration).flatMap Declaration.pieces ++
      ((.keyword "SELECT" :: Repetition.distinct.pieces ++ (Selection.items item []).pieces) ++
        ([] : List Dataset).flatMap Dataset.pieces)) ts (u :: ts₁) := by
    simpa [Repetition.pieces, Selection.pieces] using hselection
  have hfits : (Selection.items item []).Fits := ⟨hitem, by simp⟩
  obtain ⟨scope, hquery, -, hlabels⟩ := query_start (ts.length + 2) (.eof length) (by simp) hfits (by simp) (by omega)
    hselected (.inl hwhere)
  have hready : Ready noLabels (markers (symbol .openBrace :: ps)) { ahead := ts₁, last := .eof length, scope } :=
    ⟨hlabels, by simp [hmarkers]⟩
  obtain ⟨e, after, hfail⟩ := group_refuses h (show ps.length + 4 ≤ ts.length + 2 by omega) _ rest hready hgroup
  have hskip := skipKeyword_keyword (s := { ahead := u :: ts₁, last := .eof length, scope }) rfl hwhere
    (List.mem_singleton_self "WHERE")
  refine ⟨e, after.scope, ?_⟩
  rw [parseTokens, hquery]
  simp only [queryRest, bind_apply, hskip, hfail]

end PointOfFocus.Query
