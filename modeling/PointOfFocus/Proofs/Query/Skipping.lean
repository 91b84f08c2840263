import PointOfFocus.Proofs.Query.Agreement

/-!
# Skipped brackets do not interfere

The contents of a bracket that is skipped have no part in the reading of a query: of two variants of a token sequence
both are read or neither is, and if they are, the scopes are equal (`parseTokens_variant`).

Every production agrees with itself. Inside a group the readings are at an open place from one element to the next, so
the brackets of collections, blank nodes and groups are taken by both; the keywords of filters, bindings and blocks of
values lead to the other places and back. Before the group expressions may be skipped, and after it the place does not
matter, because any bracket is skipped there.
-/

namespace PointOfFocus.Query

open PointOfFocus.Rdf

/-! ### Verbs -/

private theorem Agrees.separated {α : Type} {x : Symbol} {item item' : Parser α} (h : Agrees item item') :
    ∀ bound bound', Agrees (separated x item bound) (separated x item' bound')
  | 0, _ => fun _ _ _ => .left rfl
  | _ + 1, 0 => fun _ _ _ => .right rfl
  | bound + 1, bound' + 1 => by
    intro s s' hs
    refine .atSymbol hs (.ite Iff.rfl (fun hsymbol => .advance ?_) fun _ => .pure rfl hs)
    have hkind : s.token.kind = .symbol x := of_decide_eq_true hsymbol
    refine (h _ _ (hs.take (Place.after_symbol _ hkind))).seq fun first middle middle' hmiddle => ?_
    refine (Agrees.separated h bound bound' _ _ hmiddle).seq fun rest after after' hafter => ?_
    exact .pure rfl hafter

section

variable {inner inner' : Parser Term} (hinner : Agrees inner inner')
include hinner

private theorem pathPrimary_agrees : Agrees (pathPrimary inner) (pathPrimary inner') := by
  intro s s' hs
  have htake := hs.take
  have hafter := @Place.after_kind s.token
  have htext := hs.token.text
  refine .token ?_
  rw [hs.token.kind]
  cases hkind : s.token.kind with
  | iri =>
    refine .advance ?_
    rw [htext]
    exact .pure rfl (htake (hafter (by simp [hkind])))
  | prefixedName =>
    have hname := resolveName_agrees (htake (hafter (by simp [hkind]))) hs.token
    refine .advance (hname.seq fun iri middle middle' hmiddle => ?_)
    exact .pure rfl hmiddle
  | symbol x =>
    cases x with
    | openParen =>
      refine .advance ((hinner _ _ (htake (hafter (by simp [hkind])))).seq fun path middle middle' hmiddle => ?_)
      exact (expectSymbol_agrees hmiddle rfl).bind fun _ _ _ _ _ hclosed => .pure rfl hclosed
    | _ => exact .fail _ _
  | word =>
    rw [htext]
    refine .ite Iff.rfl (fun htype => .advance (.pure rfl (htake (Place.after_other ?_)))) fun _ => .fail _ _
    have htext : s.token.text = "a" := by simpa using htype
    have hupper : skippingKeywords.contains (Text.upper "a") = false := by decide
    rw [Token.isKeyword, htext, hupper, Bool.and_false]
  | _ => exact .fail _ _

private theorem pathStepRest_agrees (inverse : Bool) :
    Agrees (pathStepRest inner inverse) (pathStepRest inner' inverse) := by
  intro s s' hs
  refine (pathPrimary_agrees hinner s s' hs).seq fun path middle middle' hmiddle => ?_
  exact .token (.ite (by rw [hmiddle.token.isRepetition]) (fun _ => .fail_bind _ _) fun _ => .pure rfl hmiddle)

private theorem pathStep_agrees : Agrees (pathStep inner) (pathStep inner') := by
  have hrest := pathStepRest_agrees hinner
  rw [pathStep_eq, pathStep_eq]
  intro s s' hs
  refine .atSymbol hs (.ite Iff.rfl (fun hsymbol => .advance (hrest _ _ _ (hs.take ?_))) fun _ => hrest _ _ _ hs)
  exact Place.after_symbol _ (of_decide_eq_true hsymbol)

private theorem pathSequence_agrees (bound bound' : Nat) :
    Agrees (pathSequence bound inner) (pathSequence bound' inner') := by
  intro s s' hs
  refine (pathStep_agrees hinner s s' hs).seq fun first middle middle' hmiddle => ?_
  refine ((pathStep_agrees hinner).separated bound bound' _ _ hmiddle).seq fun rest after after' hafter => ?_
  cases rest <;> exact .pure rfl hafter

end

private theorem path_agrees : ∀ bound bound', Agrees (path bound) (path bound')
  | 0, _ => fun _ _ _ => .left rfl
  | _ + 1, 0 => fun _ _ _ => .right rfl
  | bound + 1, bound' + 1 => by
    have hitem := pathSequence_agrees (path_agrees bound bound') bound bound'
    intro s s' hs
    refine (hitem s s' hs).seq fun first middle middle' hmiddle => ?_
    refine (hitem.separated bound bound' _ _ hmiddle).seq fun rest after after' hafter => ?_
    cases rest <;> exact .pure rfl hafter

private theorem verb_agrees (bound bound' : Nat) : Agrees (verb bound) (verb bound') := by
  intro s s' hs
  have hafter := @Place.after_kind s.token
  refine .token ?_
  rw [hs.token.kind]
  cases hkind : s.token.kind with
  | focus hint => exact pointOfFocus_agrees hs (by simp [hkind]) _
  | var =>
    refine .advance ?_
    rw [hs.token.text]
    exact .pure rfl (hs.take (hafter (by simp [hkind])))
  | _ => exact path_agrees bound bound' s s' hs

/-! ### Triples -/

section

variable {object object' : Parser Term} (hobject : Agrees object object')
include hobject

private theorem objects_agrees : ∀ bound bound', Agrees (objects object bound) (objects object' bound')
  | 0, _ => fun _ _ _ => .left rfl
  | _ + 1, 0 => fun _ _ _ => .right rfl
  | bound + 1, bound' + 1 => by
    intro s s' hs
    refine (hobject s s' hs).seq fun t middle middle' hmiddle => ?_
    refine .collect ((collectPattern_agrees (hmiddle.collect _)).bind fun _ _ after after' _ hafter => ?_)
    refine .atSymbol hafter (.ite Iff.rfl (fun hsymbol => .advance ?_) fun _ => .pure rfl hafter)
    exact objects_agrees bound bound' _ _ (hafter.take (Place.after_symbol _ (of_decide_eq_true hsymbol)))

private theorem objectList_agrees (bound bound' : Nat) (predicate : Term) :
    Agrees (objectList object bound predicate) (objectList object' bound' predicate) := by
  intro s s' hs
  have hobjects := objects_agrees hobject bound bound' s s' hs
  refine .token (.ite (by rw [hs.token.startsObject]) (fun _ => hobjects) fun _ => ?_)
  refine .ite Iff.rfl (fun _ => .collect ?_) fun _ => .token (.fail _ _)
  exact (collectPattern_agrees (hs.collect _)).mono (fun _ _ _ => rfl) fun _ _ hafter => hafter

private theorem propertyList_agrees : ∀ bound bound', Agrees (propertyList object bound) (propertyList object' bound')
  | 0, _ => fun _ _ _ => .left rfl
  | _ + 1, 0 => fun _ _ _ => .right rfl
  | bound + 1, bound' + 1 => by
    intro s s' hs
    refine (verb_agrees bound bound' s s' hs).seq fun predicate middle middle' hmiddle => ?_
    refine .collect ((objectList_agrees hobject bound bound' predicate _ _ (hmiddle.collect _)).bind ?_)
    intro _ _ after after' _ hafter
    refine .atSymbol hafter (.ite Iff.rfl (fun _ => ?_) fun _ => .pure rfl hafter)
    refine (skipSemicolons_agrees hafter).bind fun _ _ later later' _ hlater => .token ?_
    refine .ite (by rw [hlater.token.startsVerb]) (fun _ => ?_) fun _ => .pure rfl hlater
    exact propertyList_agrees bound bound' _ _ hlater

private theorem blankNode_agrees (bound bound' : Nat) : Agrees (blankNode object bound) (blankNode object' bound') := by
  intro s s' hs
  refine (expectSymbol_agrees hs rfl).bind fun _ _ opened opened' _ hopened => ?_
  refine (freshVariable_agrees hopened).seq fun node middle middle' hmiddle => ?_
  refine (Agrees.nested (fun s s' hs => ?_) _ _ hmiddle).bind fun _ _ after after' _ hafter =>
    (expectSymbol_agrees hafter rfl).bind fun _ _ _ _ _ hclosed => .pure rfl hclosed
  refine .collect (.token ?_)
  have hsubject := hs.collect (Scope.setSubject node)
  refine .ite (by rw [hsubject.token.startsVerb]) (fun _ => .fail_bind _ _) fun _ => ?_
  exact propertyList_agrees hobject bound bound' _ _ hsubject

private theorem items_agrees (opening opening' : Token) : ∀ bound bound',
    Agrees (items object opening bound) (items object' opening' bound')
  | 0, _ => fun _ _ _ => .left rfl
  | _ + 1, 0 => fun _ _ _ => .right rfl
  | bound + 1, bound' + 1 => by
    intro s s' hs
    refine .token (.ite (by rw [hs.token.kind]) (fun hkind => ?_) fun _ => .ite (by rw [hs.token.kind])
      (fun _ => .failAt _ _ _ _) fun _ => ?_)
    · exact .advance (.pure rfl (hs.take (Place.after_symbol _ hkind)))
    · refine (hobject s s' hs).seq fun item middle middle' hmiddle => ?_
      refine (items_agrees opening opening' bound bound' _ _ hmiddle).seq fun rest after after' hafter => ?_
      exact .pure rfl hafter

end

private theorem freshNodes_agrees : ∀ ts, Agrees (freshNodes ts) (freshNodes ts)
  | [] => fun _ _ hs => .pure rfl hs
  | _ :: ts => by
    intro s s' hs
    refine (freshVariable_agrees hs).seq fun node middle middle' hmiddle => ?_
    refine (freshNodes_agrees ts _ _ hmiddle).seq fun nodes after after' hafter => ?_
    exact .pure rfl hafter

private theorem link_agrees (subject : Term) (predicate : String) (object : Term) :
    Agrees (link subject predicate object) (link subject predicate object) := by
  intro s s' hs
  refine .collect (.collect (.collect ?_))
  have hparts := ((hs.collect (Scope.setSubject subject)).collect (Scope.setPredicate (.iri predicate))).collect
    (Scope.setObject object)
  exact (collectPattern_agrees hparts).mono (fun _ _ _ => rfl) fun _ _ hafter => hafter

private theorem linkNodes_agrees : ∀ links, Agrees (linkNodes links) (linkNodes links)
  | [] => fun _ _ hs => .pure rfl hs
  | (node, item) :: rest => by
    intro s s' hs
    refine (link_agrees node _ item s s' hs).bind fun _ _ middle middle' _ hmiddle => ?_
    refine (link_agrees node _ _ _ _ hmiddle).bind fun _ _ after after' _ hafter => ?_
    exact linkNodes_agrees rest _ _ hafter

private theorem collection_agrees {object object' : Parser Term} (hobject : Agrees object object')
    (bound bound' : Nat) : Agrees (collection object bound) (collection object' bound') := by
  intro s s' hs
  refine (expectSymbol_agrees hs rfl).bind fun opening opening' opened opened' _ hopened => ?_
  refine (items_agrees hobject opening opening' bound bound' _ _ hopened).seq fun terms middle middle' hmiddle => ?_
  refine (freshNodes_agrees terms _ _ hmiddle).seq fun nodes after after' hafter => ?_
  cases nodes with
  | nil => exact .pure rfl hafter
  | cons first rest =>
    exact ((linkNodes_agrees _).nested _ _ hafter).bind fun _ _ _ _ _ hlinked => .pure rfl hlinked

private theorem graphNode_agrees (role : Role) : Agrees (graphNode role) (graphNode role) := by
  intro s s' hs
  refine .atSymbol hs (.ite Iff.rfl (fun hsymbol => .advance ?_) fun _ => simpleTerm_agrees hs role)
  have hopened := hs.take (Place.after_symbol _ (of_decide_eq_true hsymbol))
  exact (expectSymbol_agrees hopened rfl).bind fun _ _ _ _ _ hclosed => freshVariable_agrees hclosed

private theorem Agree.atBlankNode {γ : Type} {s s' : State} {f f' : Bool → Parser γ} {R : γ → γ → Prop}
    {Q : State → State → Prop} (hs : Beside .other s s') (h : ∀ isBlank, Agree s s' (f isBlank) (f' isBlank) R Q) :
    Agree s s' (atBlankNode >>= f) (atBlankNode >>= f') R Q := by
  refine .step (atBlankNode_apply s) ?_ (h _)
  rw [atBlankNode_apply, hs.token.kind, (hs.next rfl).kind]

private theorem object_agrees : ∀ bound bound', Agrees (object bound) (object bound')
  | 0, _ => fun _ _ _ => .left rfl
  | _ + 1, 0 => fun _ _ _ => .right rfl
  | bound + 1, bound' + 1 => by
    have hobject := object_agrees bound bound'
    intro s s' hs
    refine .atBlankNode hs fun _ => .ite Iff.rfl (fun _ => blankNode_agrees hobject bound bound' s s' hs) fun _ => ?_
    refine .atSymbol hs (.ite Iff.rfl (fun _ => ?_) fun _ => graphNode_agrees _ s s' hs)
    exact collection_agrees hobject bound bound' s s' hs

private theorem triplesRest_agrees (bound bound' : Nat) (isBlank isCollection : Bool) (subject : Term) :
    Agrees (triplesRest bound isBlank isCollection subject) (triplesRest bound' isBlank isCollection subject) := by
  intro s s' hs
  have hsubject := hs.collect (Scope.setSubject subject)
  refine .collect (.token (.ite (by rw [hsubject.token.startsVerb]) (fun _ => ?_) fun _ => ?_))
  · exact propertyList_agrees (object_agrees bound bound') bound bound' _ _ hsubject
  · exact .ite Iff.rfl (fun _ => .token (.fail _ _)) fun _ => .pure rfl hsubject

private theorem triples_agrees (bound bound' : Nat) : Agrees (triples bound) (triples bound') := by
  have hobject := object_agrees bound bound'
  have hrest := triplesRest_agrees bound bound'
  rw [triples_eq, triples_eq]
  intro s s' hs
  refine .atBlankNode hs fun isBlank => .atSymbol hs (.ite Iff.rfl (fun _ => ?_) fun _ => .ite Iff.rfl (fun _ => ?_)
    fun _ => ?_)
  · refine (blankNode_agrees hobject bound bound' s s' hs).seq fun subject middle middle' hmiddle => ?_
    exact hrest _ _ subject _ _ hmiddle
  · refine (collection_agrees hobject bound bound' s s' hs).seq fun subject middle middle' hmiddle => ?_
    exact hrest _ _ subject _ _ hmiddle
  · refine (graphNode_agrees _ s s' hs).seq fun subject middle middle' hmiddle => ?_
    exact hrest _ _ subject _ _ hmiddle

/-! ### Groups -/

section

variable {s s' : State} {p : Place}

/-- Skipping a bracket leads to an open place if the bracket at hand leads nowhere else. -/
private theorem skipBrackets_closes (hs : Beside p s s') {x y : Symbol} (hkind : s.token.kind = .symbol x)
    (hx : x.closing? = some y) (hplace : ∀ q, p.skips? (.symbol x) = some q → q = .other) :
    Agree s s' skipBrackets skipBrackets Eq (Beside .other) := by
  have hopens : s.token.closing? = some y := by simp [Token.closing?, hkind, hx]
  refine (skipBrackets_agrees hs hopens).mono (fun _ _ _ => rfl) fun after after' hafter => ?_
  rw [hkind] at hafter
  exact hafter.other hplace

private theorem skipBracket_closes (hs : Beside p s s') {x y : Symbol} (hx : x.closing? = some y) (cause : Cause)
    (hplace : ∀ q, p.skips? (.symbol x) = some q → q = .other) :
    Agree s s' (skipBracket x cause) (skipBracket x cause) Eq (Beside .other) :=
  (skipBracket_agrees hs hx cause).mono (fun _ _ _ => rfl) fun _ _ hafter => hafter.other hplace

/-- A test for existence or a function call, where a negated test has led to or a filter. -/
private theorem constraintRest_agrees (hs : Beside p s s')
    (hexists : s.token.isKeyword ["EXISTS"] = true → p.after s.token = .braces)
    (hcall : s.token.isKeyword ["EXISTS"] = false → s.token.isFunctionName = true → p.after s.token = .parens) :
    Agree s s' constraintRest constraintRest Eq (Beside .other) := by
  refine .atKeyword hs (.ite Iff.rfl (fun hword => .advance ?_) fun hword => .token (.get ?_))
  · have hnext := hs.keyword hword
    rw [hexists hword] at hnext
    exact skipBracket_closes hnext rfl _ (by simp [Place.skips?])
  · by_cases hname : s.token.isFunctionName = true
    · have hplain : p.skips? s.token.kind = none := by
        simp only [Token.isFunctionName, Bool.or_eq_true, decide_eq_true_eq] at hname
        rcases hname with (hkind | hkind) | hkind <;> rw [hkind] <;> cases p <;> rfl
      have hnext := hs.advance hplain
      rw [hcall (by simpa using hword) hname] at hnext
      rw [hs.token.isFunctionName, (hs.next hplain).kind]
      refine .ite Iff.rfl (fun hparen => .advance ?_) fun _ => .fail _ _
      have hkind : s.next.kind = .symbol .openParen := by simpa [hname] using hparen
      exact skipBrackets_closes hnext hkind rfl (by simp [Place.skips?])
    · rw [hs.token.isFunctionName]
      simp only [hname, Bool.false_and, Bool.false_eq_true, ↓reduceIte]
      exact .fail _ _

private theorem constraint_agrees (hs : Beside .filter s s') : Agree s s' constraint constraint Eq (Beside .other) := by
  rw [constraint_eq]
  refine .atSymbol hs (.ite Iff.rfl (fun hsymbol => ?_) fun _ => .atKeyword hs (.ite Iff.rfl (fun hnot => .advance ?_)
    fun hnot => ?_))
  · exact skipBrackets_closes hs (of_decide_eq_true hsymbol) rfl (by simp [Place.skips?])
  · have hnegation := hs.keyword hnot
    simp only [Place.after, hnot, ↓reduceIte] at hnegation
    refine (expectKeyword_agrees hnegation (q := .denial) fun hexists => ?_).bind fun _ _ middle middle' _ hmiddle => ?_
    · simp only [Place.after, hexists, ↓reduceIte]
    · -- a whole test has to follow the two words, so braces right after them stop both readings
      refine constraintRest_agrees hmiddle (fun hexists => ?_) fun hexists hname => ?_
      · simp only [Place.after, hexists, ↓reduceIte]
      · simp only [Place.after, hexists, hname, Bool.false_eq_true, ↓reduceIte]
  · refine constraintRest_agrees hs (fun hexists => ?_) fun hexists hname => ?_
    · simp only [Place.after, hnot, hexists, Bool.false_eq_true, ↓reduceIte]
    · simp only [Place.after, hnot, hexists, hname, Bool.false_eq_true, ↓reduceIte]

private theorem values_agrees (hs : Beside .values s s') : Agree s s' values values Eq (Beside .other) := by
  refine .token (.ite (by rw [hs.token.kind]) (fun hkind => .advance ?_) fun _ => ?_)
  · have hnext := hs.advance (by rw [hkind]; rfl)
    simp only [Place.after, hkind, ↓reduceIte] at hnext
    exact skipBracket_closes hnext rfl _ (by simp [Place.skips?])
  · refine (skipBracket_agrees hs rfl _).bind fun _ _ middle middle' _ hmiddle => ?_
    obtain ⟨q, hq, hmiddle⟩ := hmiddle
    refine skipBracket_closes hmiddle rfl _ ?_
    rcases hq with rfl | hq
    · simp [Place.skips?]
    · cases hq
      simp [Place.skips?]

end

section

variable {inner inner' : Parser Unit} (hinner : Agrees inner inner')
include hinner

private theorem namedGroup_agrees (keyword : String) :
    Agrees (namedGroup inner keyword) (namedGroup inner' keyword) := by
  have hnamed : Agrees (do let _ ← simpleTerm .subject; inner) (do let _ ← simpleTerm .subject; inner') :=
    fun s s' hs => (simpleTerm_agrees hs _).bind fun _ _ _ _ _ hmiddle => hinner _ _ hmiddle
  intro s s' hs
  unfold namedGroup
  refine .ite Iff.rfl (fun _ => ?_) fun _ => .token ?_
  · have hsilent : ∀ after after', s.token.isKeyword ["SILENT"] = true →
        Beside (Place.other.after s.token) after after' → Beside .other after after' := by
      intro after after' hword hafter
      rwa [Place.after_keyword hword (by decide)] at hafter
    refine (skipKeyword_agrees hs hsilent hs).bind fun _ _ middle middle' _ hmiddle => .token ?_
    rw [hmiddle.token.kind]
    cases middle.token.kind with
    | var | iri | prefixedName => exact hnamed _ _ hmiddle
    | _ => exact .fail _ _
  · rw [hs.token.kind]
    cases s.token.kind with
    | var | iri | prefixedName => exact hnamed _ _ hs
    | _ => exact .fail _ _

private theorem element_agrees {s s' : State} (hs : Beside .other s s')
    (hkeyword : s.token.isKeyword elementKeywords = true) :
    Agree s s' (element inner) (element inner') Eq (Beside .other) := by
  have hword := Token.isKeyword_kind hkeyword
  have hnext := hs.keyword hkeyword
  have hmem : Text.upper s.token.text ∈ elementKeywords := by simpa [Token.isKeyword, hword] using hkeyword
  have hone : ∀ word, Text.upper s.token.text = word → s.token.isKeyword [word] = true := by
    intro word hupper
    simp [Token.isKeyword, hword, hupper]
  refine .advance ?_
  rw [hs.token.text]
  refine .ite Iff.rfl (fun hplain => ?_) fun hplain => .ite Iff.rfl (fun hnamed => ?_) fun hnamed =>
    .ite Iff.rfl (fun hfilter => ?_) fun hfilter => .ite Iff.rfl (fun hbind => ?_) fun hbind => ?_
  · have hkeyword : s.token.isKeyword ["OPTIONAL", "MINUS"] = true := by simpa [Token.isKeyword, hword] using hplain
    exact hinner _ _ (hs.take (Place.after_keyword hkeyword (by decide)))
  · have hkeyword : s.token.isKeyword ["GRAPH", "SERVICE"] = true := by simpa [Token.isKeyword, hword] using hnamed
    exact namedGroup_agrees hinner _ _ _ (hs.take (Place.after_keyword hkeyword (by decide)))
  · rw [Place.after_filter (hone _ hfilter)] at hnext
    exact constraint_agrees hnext
  · rw [Place.after_bind (hone _ hbind)] at hnext
    exact skipBracket_closes hnext rfl _ (by simp [Place.skips?])
  · have hvalues : Text.upper s.token.text = "VALUES" := by
      simp only [Bool.or_eq_true, decide_eq_true_eq, not_or] at hplain hnamed
      simpa [elementKeywords, hplain.1, hplain.2, hnamed.1, hnamed.2, hfilter, hbind] using hmem
    rw [Place.after_values (hone _ hvalues)] at hnext
    exact values_agrees hnext

private theorem unions_agrees : ∀ bound bound', Agrees (unions inner bound) (unions inner' bound')
  | 0, _ => fun _ _ _ => .left rfl
  | _ + 1, 0 => fun _ _ _ => .right rfl
  | bound + 1, bound' + 1 => by
    intro s s' hs
    refine .atKeyword hs (.ite Iff.rfl (fun hunion => .advance ?_) fun _ => .pure rfl hs)
    refine (hinner _ _ (hs.take (Place.after_keyword hunion (by decide)))).bind fun _ _ _ _ _ hmiddle => ?_
    exact unions_agrees bound bound' _ _ hmiddle

private theorem elements_agrees (opening opening' : Token) : ∀ bound bound',
    Agrees (elements inner opening bound) (elements inner' opening' bound')
  | 0, _ => fun _ _ _ => .left rfl
  | _ + 1, 0 => fun _ _ _ => .right rfl
  | bound + 1, bound' + 1 => by
    have hrest := elements_agrees opening opening' bound bound'
    intro s s' hs
    have hafter := @Place.after_kind s.token
    have hother : Agree s s' (elementsRest inner opening bound s.token) (elementsRest inner' opening' bound' s'.token) Eq
        (Beside .other) := by
      refine .ite (by rw [hs.token.isKeyword]) (fun hkeyword => ?_) fun _ => ?_
      · exact (element_agrees hinner hs hkeyword).bind fun _ _ _ _ _ hmiddle => hrest _ _ hmiddle
      · refine (triples_agrees bound bound' s s' hs).bind fun _ _ middle middle' _ hmiddle => .token ?_
        exact .ite (by rw [hmiddle.token.endsTriples]) (fun _ => .token (.fail_bind _ _)) fun _ => hrest _ _ hmiddle
    refine .token ?_
    rw [hs.token.kind]
    cases hkind : s.token.kind with
    | eof => exact .failAt _ _ _ _
    | symbol x =>
      cases x with
      | closeBrace => exact .advance (.pure rfl (hs.take (hafter (by simp [hkind]))))
      | dot => exact .advance (hrest _ _ (hs.take (hafter (by simp [hkind]))))
      | openBrace =>
        refine (hinner s s' hs).bind fun _ _ _ _ _ hmiddle => ?_
        exact (unions_agrees hinner bound bound' _ _ hmiddle).bind fun _ _ _ _ _ hjoined => hrest _ _ hjoined
      | _ => exact hother
    | _ => exact hother

end

private theorem group_agrees : ∀ bound bound' p, p.skips? (.symbol .openBrace) = none → ∀ s s', Beside p s s' →
    Agree s s' (group bound) (group bound') Eq (Beside .other)
  | 0, _ => fun _ _ _ _ _ => .left rfl
  | _ + 1, 0 => fun _ _ _ _ _ => .right rfl
  | bound + 1, bound' + 1 => by
    intro p hplain s s' hs
    refine (expectSymbol_agrees hs hplain).bind fun opening opening' middle middle' _ hmiddle => ?_
    refine .atKeyword hmiddle (.ite Iff.rfl (fun _ => .fail_bind _ _) fun _ => ?_)
    exact elements_agrees (group_agrees bound bound' .other rfl) opening opening' bound bound' _ _ hmiddle

/-! ### Before the group -/

private theorem prologue_agrees : ∀ bound bound', Agrees (prologue bound) (prologue bound')
  | 0, _ => fun _ _ _ => .left rfl
  | _ + 1, 0 => fun _ _ _ => .right rfl
  | bound + 1, bound' + 1 => by
    have hrest := prologue_agrees bound bound'
    intro s s' hs
    refine .atKeyword hs (.ite Iff.rfl (fun hbase => .advance ?_) fun _ => .atKeyword hs (.ite Iff.rfl
      (fun hlabel => .advance ?_) fun _ => .pure rfl hs))
    · have hnext := hs.take (Place.after_keyword hbase (by decide))
      refine (expectIri_agrees hnext _).seq fun iri middle middle' hmiddle => ?_
      exact .collect (hrest _ _ (hmiddle.collect _))
    · have hnext := hs.take (Place.after_keyword hlabel (by decide))
      refine (expect_agrees hnext (fun hkind => hnext.take (Place.after_kind (by simp [hkind]))) _).bind
        fun t t' middle middle' ht hmiddle => ?_
      rw [ht.text]
      refine .ite Iff.rfl (fun _ => .failAt_bind _ _ _ _) fun _ => ?_
      refine (expectIri_agrees hmiddle _).seq fun iri after after' hafter => ?_
      exact .collect (hrest _ _ (hafter.collect _))

/-- The readings are before the group, where at most expressions that are selected are skipped. -/
def Outside (s s' : State) : Prop := Beside .other s s' ∨ Beside .projection s s'

private theorem Outside.exists {s s' : State} (h : Outside s s') :
    ∃ p, (p = .other ∨ p = .projection) ∧ Beside p s s' := by
  rcases h with hs | hs
  · exact ⟨_, .inl rfl, hs⟩
  · exact ⟨_, .inr rfl, hs⟩

private theorem projections_agrees : ∀ bound bound' s s', Outside s s' →
    Agree s s' (projections bound) (projections bound') Eq Outside
  | 0, _ => fun _ _ _ => .left rfl
  | _ + 1, 0 => fun _ _ _ => .right rfl
  | bound + 1, bound' + 1 => by
    have hmore : ∀ s s', Outside s s' → Agree s s' (do return (← projections bound) + 1)
        (do return (← projections bound') + 1) Eq Outside := by
      intro s s' hs
      refine (projections_agrees bound bound' s s' hs).seq fun n middle middle' hmiddle => ?_
      exact .pure rfl hmiddle
    intro s s' houtside
    obtain ⟨p, hp, hs⟩ := houtside.exists
    refine .token ?_
    rw [hs.token.kind]
    cases hkind : s.token.kind with
    | var =>
      refine .advance (hmore _ _ ?_)
      rcases hp with rfl | rfl
      · exact .inl (hs.take (Place.after_kind (by simp [hkind])))
      · have hnext := hs.advance (by rw [hkind]; rfl)
        simp only [Place.after, hkind, decide_true, Bool.true_or, ↓reduceIte] at hnext
        exact .inr hnext
    | symbol x =>
      cases x with
      | openParen =>
        have hopens : s.token.closing? = some .closeParen := by simp [Token.closing?, hkind, Symbol.closing?]
        refine (skipBrackets_agrees hs hopens).bind fun _ _ middle middle' _ hmiddle => hmore _ _ ?_
        obtain ⟨q, rfl | hq, hq'⟩ := hmiddle
        · exact .inl hq'
        · rw [hkind] at hq
          rcases hp with rfl | rfl
          · cases hq
          · cases hq
            exact .inr hq'
      | _ => exact .pure rfl houtside
    | _ => exact .pure rfl houtside

private theorem selectClause_agrees (bound bound' : Nat) {s s' : State} (hs : Beside .other s s') :
    Agree s s' (selectClause bound) (selectClause bound') Eq Outside := by
  refine (expectKeyword_agrees hs Place.after_select).bind fun _ _ middle middle' _ hmiddle => ?_
  have hdistinct : ∀ after after', middle.token.isKeyword ["DISTINCT", "REDUCED"] = true →
      Beside (Place.projection.after middle.token) after after' → Beside .projection after after' := by
    intro after after' hword hafter
    simpa only [Place.after, hword, Bool.or_true, ↓reduceIte] using hafter
  refine (skipKeyword_agrees hmiddle hdistinct hmiddle).bind fun _ _ selected selected' _ hselected => ?_
  refine .atSymbol hselected (.ite Iff.rfl (fun hstar => .advance (.pure rfl (.inl ?_))) fun _ => ?_)
  · have hkind : selected.token.kind = .symbol .star := of_decide_eq_true hstar
    have hnext := hselected.advance (by rw [hkind]; rfl)
    rwa [Place.after_symbol _ hkind] at hnext
  · refine (projections_agrees bound bound' _ _ (.inr hselected)).seq fun n after after' hafter => ?_
    exact .ite Iff.rfl (fun _ => .fail _ _) fun _ => .pure rfl hafter

/-- A keyword that stands between the clause of what is selected and the group leads to an open place. -/
private theorem Outside.keyword {s s' : State} (h : Outside s s') {words : List String}
    (hword : s.token.isKeyword words = true)
    (hother : ∀ word ∈ words, word ∉ skippingKeywords) (hselect : ∀ word ∈ words, word ∉ ["DISTINCT", "REDUCED"]) :
    Beside .other { s with ahead := s.ahead.tail } { s' with ahead := s'.ahead.tail } := by
  rcases h with hs | hs
  · exact hs.take (Place.after_keyword hword hother)
  · have hnext := hs.keyword hword
    simpa [Place.after, Token.isKeyword_kind hword, isKeyword_disjoint hword hselect] using hnext

private theorem datasets_agrees : ∀ bound bound' s s', Outside s s' →
    Agree s s' (datasets bound) (datasets bound') Eq Outside
  | 0, _ => fun _ _ _ => .left rfl
  | _ + 1, 0 => fun _ _ _ => .right rfl
  | bound + 1, bound' + 1 => by
    intro s s' houtside
    obtain ⟨p, -, hs⟩ := houtside.exists
    refine .atKeyword hs (.ite Iff.rfl (fun hfrom => .advance ?_) fun _ => .pure rfl houtside)
    have hnext := houtside.keyword hfrom (by decide) (by decide)
    have hnamed : ∀ after after', (State.token { s with ahead := s.ahead.tail }).isKeyword ["NAMED"] = true →
        Beside (Place.other.after (State.token { s with ahead := s.ahead.tail })) after after' →
        Beside .other after after' := by
      intro after after' hword hafter
      rwa [Place.after_keyword hword (by decide)] at hafter
    refine (skipKeyword_agrees hnext hnamed hnext).bind fun _ _ middle middle' _ hmiddle => .token ?_
    refine .ite (by rw [hmiddle.token.kind]) (fun hkind => .advance ?_) fun _ => ?_
    · have htaken := hmiddle.take (Place.after_kind (by simp [hkind]))
      exact (resolveName_agrees htaken hmiddle.token).bind fun _ _ _ _ _ hafter =>
        datasets_agrees bound bound' _ _ (.inl hafter)
    · exact (expectIri_agrees hmiddle _).bind fun _ _ _ _ _ hafter => datasets_agrees bound bound' _ _ (.inl hafter)

/-! ### After the group -/

/-- The readings are beside each other at any place. -/
def Anywhere (s s' : State) : Prop := ∃ p, Beside p s s'

private theorem skipCondition_agrees : ∀ bound bound' s s', Anywhere s s' →
    Agree s s' (skipCondition bound) (skipCondition bound') Eq Anywhere
  | 0, _ => fun _ _ _ => .left rfl
  | _ + 1, 0 => fun _ _ _ => .right rfl
  | bound + 1, bound' + 1 => by
    have hmore : ∀ s s', Anywhere s s' → Agree s s' (do return (← skipCondition bound) + 1)
        (do return (← skipCondition bound') + 1) Eq Anywhere := by
      intro s s' hs
      refine (skipCondition_agrees bound bound' s s' hs).seq fun n middle middle' hmiddle => ?_
      exact .pure rfl hmiddle
    rintro s s' ⟨p, hs⟩
    refine .token (.ite (by rw [hs.token.kind, hs.token.isKeyword]) (fun _ => .pure rfl ⟨p, hs⟩) fun _ => ?_)
    rw [hs.token.closing?]
    cases hopens : s.token.closing? with
    | some x =>
      refine (skipBrackets_agrees hs hopens).bind fun _ _ middle middle' _ hmiddle => hmore _ _ ?_
      obtain ⟨q, -, hq⟩ := hmiddle
      exact ⟨q, hq⟩
    | none => exact .advance (hmore _ _ ⟨_, hs.advance (Place.skips?_of_closing? p hopens)⟩)

private theorem condition_agrees (bound bound' : Nat) {s s' : State} (hs : Anywhere s s') :
    Agree s s' (condition bound) (condition bound') Eq Anywhere := by
  refine (skipCondition_agrees bound bound' s s' hs).seq fun n middle middle' hmiddle => ?_
  exact .ite Iff.rfl (fun _ => .fail _ _) fun _ => .pure rfl hmiddle

private theorem modifiers_agrees : ∀ bound bound' s s', Anywhere s s' →
    Agree s s' (modifiers bound) (modifiers bound') Eq Anywhere
  | 0, _ => fun _ _ _ => .left rfl
  | _ + 1, 0 => fun _ _ _ => .right rfl
  | bound + 1, bound' + 1 => by
    have hrest := modifiers_agrees bound bound'
    have hcondition : ∀ s s', Anywhere s s' → Agree s s' (do condition bound; modifiers bound)
        (do condition bound'; modifiers bound') Eq Anywhere :=
      fun s s' hs => (condition_agrees bound bound' hs).bind fun _ _ _ _ _ hmiddle => hrest _ _ hmiddle
    rintro s s' ⟨p, hs⟩
    refine .token (.ite (by rw [hs.token.kind]) (fun _ => .pure rfl ⟨p, hs⟩) fun _ => ?_)
    refine .ite (by rw [hs.token.isKeyword]) (fun hlimit => .advance ?_) fun _ => .ite (by rw [hs.token.isKeyword])
      (fun hby => .advance ?_) fun _ => .ite (by rw [hs.token.isKeyword]) (fun hhaving => .advance ?_)
      fun _ => .fail_bind _ _
    · have hnext := hs.keyword hlimit
      refine (expect_agrees (Q := Anywhere) hnext (fun hkind => ⟨_, hnext.advance ?_⟩) _).bind
        fun _ _ _ _ _ hmiddle => hrest _ _ hmiddle
      exact Place.skips?_of_closing? _ (by simp [Token.closing?, hkind])
    · exact (expectKeyword_agrees (hs.keyword hby) fun _ => rfl).bind fun _ _ _ _ _ hmiddle =>
        hcondition _ _ ⟨_, hmiddle⟩
    · exact hcondition _ _ ⟨_, hs.keyword hhaving⟩

/-! ### Whole queries -/

private theorem query_agrees (bound bound' : Nat) {s s' : State} (hs : Beside .other s s') :
    Agree s s' (query bound) (query bound') Eq fun after after' => after'.scope = after.scope := by
  refine (prologue_agrees bound bound' s s' hs).bind fun _ _ declared declared' _ hdeclared => ?_
  refine (selectClause_agrees bound bound' hdeclared).bind fun _ _ selected selected' _ hselected => ?_
  refine (datasets_agrees bound bound' _ _ hselected).bind fun _ _ placed placed' _ hplaced => ?_
  have hopened : Agree placed placed' (skipKeyword ["WHERE"]) (skipKeyword ["WHERE"]) AnyResults Outside := by
    obtain ⟨p, -, hp⟩ := hplaced.exists
    refine .atKeyword hp (.ite Iff.rfl (fun hwhere => .advance (.pure trivial (.inl ?_))) fun _ =>
      .pure trivial hplaced)
    exact hplaced.keyword hwhere (by decide) (by decide)
  refine hopened.bind fun _ _ opened opened' _ houtside => ?_
  obtain ⟨p, hp, hs⟩ := houtside.exists
  have hplain : p.skips? (.symbol .openBrace) = none := by rcases hp with rfl | rfl <;> rfl
  refine (group_agrees bound bound' p hplain _ _ hs).bind fun _ _ closed closed' _ hclosed => ?_
  refine (modifiers_agrees bound bound' _ _ ⟨_, hclosed⟩).bind fun _ _ last last' _ hlast => ?_
  obtain ⟨q, hlast⟩ := hlast
  exact (expect_agrees hlast (fun _ => hlast.scope) _).bind fun _ _ _ _ _ hscope => .pure rfl hscope

/-- Reading whole token sequences never gives up. -/
theorem parseTokens_ne_tooDeep {ts : List Token} (h : ∀ t ∈ ts, ∀ x, t.kind = .symbol x → t.text = x.text)
    (scope : Scope) (length offset : Nat) : (parseTokens scope ts length).1 ≠ .error (.at offset .tooDeep) := by
  have hsigns : ∀ t ∈ ts, t.kind = .symbol .plus ∨ t.kind = .symbol .minus → t.text ≠ "" := by
    intro t ht hsign
    rcases hsign with hkind | hkind
    all_goals
      rw [h t ht _ hkind]
      decide
  intro hrun
  exact (parseTokens_stops scope ts hsigns hrun).1 rfl

/-- The contents of skipped brackets do not interfere: of two variants both are read or neither is, and then the scopes
are the same. -/
theorem parseTokens_variant {ts ts' : List Token} (h : Variant .other ts ts')
    (hspelled : ∀ t ∈ ts ++ ts', ∀ x, t.kind = .symbol x → t.text = x.text) (scope : Scope) (length length' : Nat) :
    let first := parseTokens scope ts length
    let second := parseTokens scope ts' length'
    (first.1 = .ok () ↔ second.1 = .ok ()) ∧ (first.1 = .ok () → second.2 = first.2) := by
  intro first second
  have hstart : Beside .other { ahead := ts, last := .eof length, scope }
      { ahead := ts', last := .eof length', scope } :=
    ⟨h, ⟨rfl, rfl⟩, rfl, rfl, rfl, rfl⟩
  cases query_agrees (ts.length + 2) (ts'.length + 2) hstart with
  | @ok _ _ after after' hrun hrun' _ hscope =>
    have hfirst : first = (.ok (), after.scope) := by simp only [first, parseTokens, hrun]
    have hsecond : second = (.ok (), after'.scope) := by simp only [second, parseTokens, hrun']
    rw [hfirst, hsecond]
    exact ⟨Iff.rfl, fun _ => hscope⟩
  | @error e e' _ _ hrun hrun' =>
    have hfirst : first.1 = .error e := by simp only [first, parseTokens, hrun]
    have hsecond : second.1 = .error e' := by simp only [second, parseTokens, hrun']
    rw [hfirst, hsecond]
    exact ⟨iff_of_false nofun nofun, nofun⟩
  | @left offset _ hrun =>
    have hfirst : first.1 = .error (.at offset .tooDeep) := by simp only [first, parseTokens, hrun]
    exact absurd hfirst (parseTokens_ne_tooDeep (fun t ht => hspelled t (List.mem_append_left _ ht)) scope length _)
  | @right offset _ hrun' =>
    have hsecond : second.1 = .error (.at offset .tooDeep) := by simp only [second, parseTokens, hrun']
    exact absurd hsecond (parseTokens_ne_tooDeep (fun t ht => hspelled t (List.mem_append_right _ ht)) scope length' _)

/-- The tokens of a query up to the expression of a filter. -/
def filterStart : List Token :=
  [⟨.word, "SELECT", 0, 6⟩, ⟨.symbol .star, "*", 7, 8⟩, ⟨.symbol .openBrace, "\x7b", 9, 10⟩, ⟨.var, "?s", 11, 13⟩,
    ⟨.focus .none, "<", 14, 15⟩, ⟨.var, "?o", 16, 18⟩, ⟨.word, "FILTER", 19, 25⟩]

/-- The tokens of a query that filters by an expression with the given tokens, the last of which stops at the offset. -/
def filtering (inner : List Token) (stop : Nat) : List Token :=
  filterStart ++ (⟨.symbol .openParen, "(", 26, 27⟩ :: inner ++ ⟨.symbol .closeParen, ")", stop, stop + 1⟩ ::
    [⟨.symbol .closeBrace, "\x7d", stop + 2, stop + 3⟩])

private theorem filtering_variant {inner inner' : List Token} (h : Balanced inner) (h' : Balanced inner')
    (stop stop' : Nat) : Variant .other (filtering inner stop) (filtering inner' stop') := by
  have hskips : (filterStart.foldl Place.after .other).skips? (.symbol .openParen) = some .other := by decide
  exact .before filterStart (.bracket hskips ⟨rfl, rfl⟩ rfl rfl rfl h h' (.token ⟨rfl, rfl⟩ (.nil _)))

/-- A comparison, and a call of a function whose label is not declared with a keyword among its arguments. -/
theorem parseTokens_variant_filter :
    let comparison : List Token := [⟨.var, "?o", 27, 29⟩, ⟨.focus .none, "<", 30, 31⟩, ⟨.integer, "5", 32, 33⟩]
    let call : List Token := [⟨.prefixedName, "ex:f", 27, 31⟩, ⟨.symbol .openParen, "(", 31, 32⟩,
      ⟨.word, "SELECT", 32, 38⟩, ⟨.symbol .closeParen, ")", 38, 39⟩]
    (tokens "SELECT * \x7b ?s < ?o FILTER (?o < 5) \x7d".toList).toOption = some (filtering comparison 33) ∧
    (tokens "SELECT * \x7b ?s < ?o FILTER (ex:f(SELECT)) \x7d".toList).toOption = some (filtering call 39) ∧
    (parseTokens {} (filtering comparison 33) 36).1 = .ok () ∧ (parseTokens {} (filtering call 39) 42).1 = .ok () ∧
    (parseTokens {} (filtering call 39) 42).2 = (parseTokens {} (filtering comparison 33) 36).2 := by
  intro comparison call
  have hcomparison : Balanced comparison := .token rfl (.token rfl (.token rfl .nil))
  have hcall : Balanced call := .token rfl (@Balanced.bracket _ _ .closeParen [_] [] rfl rfl (.token rfl .nil) .nil)
  have hread : (parseTokens {} (filtering comparison 33) 36).1 = .ok () := by decide +kernel
  have hspelled : ∀ t ∈ filtering comparison 33 ++ filtering call 39, ∀ x, t.kind = .symbol x → t.text = x.text := by
    simp [filtering, filterStart, comparison, call, Symbol.text]
  obtain ⟨hiff, hscope⟩ := parseTokens_variant (filtering_variant hcomparison hcall 33 39) hspelled {} 36 42
  exact ⟨by decide +kernel, by decide +kernel, hread, hiff.1 hread, hscope hread⟩

end PointOfFocus.Query
