import PointOfFocus.Proofs.Query.Projection

/-!
# Completing a query

A scope that comes of reading a text can be prepared and written, so it always has a recommendation query
(`recommendationQuery_of_parse`). Asking for the query a second time gives the same text and leaves the scope as it is
unless a path is sought and more than one pattern has the point of focus for its predicate: then every request writes out
the path at one more of them (`recommendationQuery_repeatable_iff`). The query is itself a text that is read, and its
patterns are those of the prepared scope (`recommendationQuery_reread`).
-/

namespace PointOfFocus

open PointOfFocus.Query
open PointOfFocus.Rdf

private theorem mapM_render {ps : List Pattern} (h : ∀ p ∈ ps, p.Writable) :
    ∃ written, ps.mapM Pattern.render = .ok written := by
  induction ps with
  | nil => exact ⟨[], rfl⟩
  | cons p ps ih =>
    obtain ⟨hp, hps⟩ := List.forall_mem_cons.1 h
    obtain ⟨text, htext⟩ := hp.render
    obtain ⟨written, hwritten⟩ := ih hps
    exact ⟨text :: written, by rw [List.mapM_cons, htext, hwritten]; rfl⟩

/-! ### Recommendation queries -/

namespace Scope

/-- A scope that comes of reading a text can be prepared, and then it has a recommendation query. -/
theorem recommendationQuery_of_parse {text : List Char} {s : Scope} (h : parse text = .ok s) :
    ∃ kept after written, Prepared s kept after ∧ after.patterns.mapM Pattern.render = .ok written ∧
      s.recommendationQuery .recommendation [] = (.ok (Template.recommendationText after written), after) := by
  have hshape := parse_shaped h
  obtain ⟨kept, after, hafter⟩ :=
    exists_prepared (fun p hp => (hshape.patterns p hp).writable) hshape.pathLength hshape.projection
  obtain ⟨written, hwritten⟩ := mapM_render hafter.writable
  refine ⟨kept, after, written, hafter, hwritten, ?_⟩
  simp only [recommendationQuery, hafter.prepare, Template.render_recommendation hwritten]

/-- Whatever the template makes of it, the scope is left as it was prepared. -/
theorem recommendationQuery_scope {template : Template} {context : List (String × Data.Value)} (s : Scope) :
    (s.recommendationQuery template context).2 = s.prepare.2 := by
  unfold recommendationQuery
  split
  next hprepare => rw [hprepare]
  next hprepare => rw [hprepare]

/-- A text that is read has a recommendation query. A second request gives the same query and leaves the scope as the
first one left it if and only if no path is sought or at most one pattern has the point of focus for its predicate. -/
theorem recommendationQuery_repeatable_iff {text : List Char} {s : Scope} (h : parse text = .ok s) :
    let first := s.recommendationQuery .recommendation []
    let second := first.2.recommendationQuery .recommendation []
    (∃ query, first.1 = .ok query) ∧
      ((second.1 = first.1 ∧ second.2.patterns = first.2.patterns ∧ second.2.projection = first.2.projection ∧
        second.2.pathLength = first.2.pathLength) ↔
      (s.pathLength = 0 ∨ s.patterns.countP (·.predicate.isFocus) ≤ 1)) := by
  obtain ⟨kept, after, written, hafter, hwritten, hquery⟩ := recommendationQuery_of_parse h
  intro first second
  have hfirst : first = (.ok (Template.recommendationText after written), after) := hquery
  have hsecond : second = after.recommendationQuery .recommendation [] :=
    congrArg (fun result => result.2.recommendationQuery .recommendation []) hfirst
  refine ⟨⟨_, congrArg Prod.fst hfirst⟩, fun hsame => ?_, fun hcond => ?_⟩
  · -- every request takes away one of the patterns with the point of focus for its predicate
    by_contra hboth
    obtain ⟨hlength, hcount⟩ := not_or.1 hboth
    have hpatterns := hsame.2.1
    rw [hsecond, recommendationQuery_scope, hfirst] at hpatterns
    have hagain := hafter.focusCount_again hlength
    have honce := hafter.focusCount_eq hlength
    rw [hpatterns] at hagain
    simp only [focusCount] at hagain honce
    omega
  · have hnone : after.pathLength = 0 ∨ focusCount after.patterns = 0 := by
      by_cases hlength : s.pathLength = 0
      · exact .inl (hafter.pathLength.trans hlength)
      · have hcount : focusCount s.patterns ≤ 1 := hcond.resolve_left hlength
        refine .inr ?_
        rw [hafter.focusCount_eq hlength]
        omega
    have hagain : second = first := by
      rw [hsecond, hfirst, recommendationQuery, hafter.prepare_again hnone]
      simp only [Template.render_recommendation hwritten]
    rw [hagain]
    exact ⟨rfl, rfl, rfl, rfl⟩

/-- A path of two predicates is sought, and the point of focus has two objects. -/
theorem recommendationQuery_two_objects : ∃ s, parse "SELECT * \x7b ?s 2/< ?a , ?b \x7d".toList = .ok s ∧
    let first := s.recommendationQuery .recommendation []
    let second := first.2.recommendationQuery .recommendation []
    (∃ query, first.1 = .ok query) ∧
      ¬ (second.1 = first.1 ∧ second.2.patterns = first.2.patterns ∧ second.2.projection = first.2.projection ∧
        second.2.pathLength = first.2.pathLength) := by
  have hread : ((parse "SELECT * \x7b ?s 2/< ?a , ?b \x7d".toList).toOption.map fun s =>
      (s.pathLength, s.patterns.countP (·.predicate.isFocus))) = some (2, 2) := by decide +kernel
  cases hparse : parse "SELECT * \x7b ?s 2/< ?a , ?b \x7d".toList with
  | error e =>
    rw [hparse] at hread
    cases hread
  | ok s =>
    simp only [hparse, Except.toOption, Option.map_some, Option.some.injEq, Prod.mk.injEq] at hread
    obtain ⟨hquery, hiff⟩ := recommendationQuery_repeatable_iff hparse
    refine ⟨s, rfl, hquery, ?_⟩
    rw [hiff, hread.1, hread.2]
    decide

/-! ### Reading the query -/

/-- Whether the term is a variable. -/
def isVar : Term → Bool
  | .var _ => true
  | _ => false

private theorem exists_of_isVar {t : Term} (h : isVar t = true) : ∃ x, t = .var x := by
  cases t with
  | var x => exact ⟨x, rfl⟩
  | _ => cases h

/-- The first pattern with the point of focus for its predicate relates two variables. -/
def FocusOnVariables (patterns : List Pattern) : Prop :=
  ∀ p ∈ patterns.find? (·.predicate.isFocus), isVar p.subject = true ∧ isVar p.object = true

instance (patterns : List Pattern) : Decidable (FocusOnVariables patterns) :=
  inferInstanceAs (Decidable (∀ p ∈ patterns.find? (·.predicate.isFocus), isVar p.subject = true ∧ isVar p.object = true))

/-- The nodes of a chain between two variables are variables. -/
private theorem chainNode_shaped {x y : String} (hx : IsVarName x) (hy : IsVarName y) (hops : Nat) :
    ∃ z, chainNode (.var x) (x ++ y) hops = .var z ∧ IsVarName z := by
  unfold chainNode
  split
  · exact ⟨x, rfl, hx⟩
  · have hname : IsVarName (x ++ y ++ hops.repr) := by
      refine ⟨by simp [hx.1], fun c hc => ?_⟩
      simp only [String.toList_append, List.mem_append] at hc
      rcases hc with (hc | hc) | hc
      · exact hx.2 c hc
      · exact hy.2 c hc
      · exact isVarChar_of_mem_repr hc
    refine ⟨_, ?_, hname⟩
    have hmark : isVarChar '?' = false := by decide
    rw [Term.named, Term.bareName]
    split
    next cs hcs =>
      have hfirst := hname.2 '?' (by rw [hcs]; exact List.mem_cons_self)
      rw [hmark] at hfirst
      cases hfirst
    · rfl

/-- A pattern of three variables is read as it is written. -/
private theorem legible_of_vars {p : Pattern} (hs : ∃ x, p.subject = .var x ∧ IsVarName x)
    (hq : ∃ x, p.predicate = .var x ∧ IsVarName x) (ho : ∃ x, p.object = .var x ∧ IsVarName x) : Legible p := by
  obtain ⟨x, hs, hx⟩ := hs
  obtain ⟨y, hq, hy⟩ := hq
  obtain ⟨z, ho, hz⟩ := ho
  refine ⟨⟨by rw [hs]; exact hx, .inl ⟨y, hq, hy⟩, by rw [ho]; exact hz⟩, fun l hl => ?_, by rw [hq]; rfl⟩
  rcases hl with hl | hl
  · cases hs.symm.trans hl
  · cases ho.symm.trans hl

/-- The hops of a path are variables that can be read. -/
theorem hop_legible {length : Int} (h : 0 ≤ length) : ∃ x, Term.hop length = .var x ∧ IsVarName x := by
  obtain ⟨n, rfl⟩ := Int.eq_ofNat_of_zero_le h
  exact ⟨_, rfl, hop_shaped n⟩

/-- A scope whose patterns are read as they are written stays such a scope when the path is written out. -/
private theorem legible_expand {s : Scope} (h : ∀ p ∈ s.patterns, Legible p) (hlength : 0 ≤ s.pathLength)
    (hfocus : s.pathLength ≠ 0 → FocusOnVariables s.patterns) : ∀ p ∈ s.expand.patterns, Legible p := by
  rcases expand_cases s with ⟨heq, _⟩ | ⟨before, p, after, hne, hsplit, hbefore, hp, heq⟩
  · rw [heq]
    exact h
  · have hfirst : s.patterns.find? (·.predicate.isFocus) = some p := by
      have hnone : before.find? (·.predicate.isFocus) = none := List.find?_eq_none.2 fun q hq => by simp [hbefore q hq]
      rw [hsplit, List.find?_append, hnone, Option.none_or, List.find?_cons, hp]
    -- the ends of the pattern that is replaced are variables, so every name of the chain is one too
    obtain ⟨hs, ho⟩ := hfocus hne p hfirst
    obtain ⟨x, hs⟩ := exists_of_isVar hs
    obtain ⟨y, ho⟩ := exists_of_isVar ho
    have hshape := (h p (by rw [hsplit]; simp)).shape
    have hx : NodeShape (.var x) := hs ▸ hshape.subject
    have hy : NodeShape (.var y) := ho ▸ hshape.object
    have hnode := chainNode_shaped hx hy
    rw [heq]
    rw [hsplit] at h
    intro q hq
    simp only [List.append_assoc, List.mem_append, List.mem_cons] at hq
    rcases hq with hq | (rfl | hq) | hq
    · exact h q (by simp [hq])
    · refine legible_of_vars ?_ (hop_legible hlength) ⟨y, ho, hy⟩
      rw [lastHop, hs, ho]
      exact hnode _
    · exact h q (by simp [hq])
    · obtain ⟨i, _, rfl⟩ := List.mem_map.1 hq
      rw [hs, ho]
      exact legible_of_vars (hnode i) (hop_legible (by omega)) (hnode (i + 1))

/-- The projection of a scope whose path may have been written out is something that a query selects. -/
private theorem projection_expand {s : Scope} (h : s.projection = defaultProjection) :
    SelectedWritten s.expand.projection := by
  rcases expand_cases s with ⟨heq, _⟩ | ⟨before, p, after, _, _, _, _, heq⟩
  · rw [heq, h]
    exact defaultProjection_written
  · rw [heq]
    exact pathProjection_written s.pathLength

/-- The recommendation query of a text is read, and its patterns are those of the scope that it was written from. -/
theorem recommendationQuery_reread {text : List Char} {s : Scope} (h : parse text = .ok s)
    (hliterals : ∀ l ∈ literals s.patterns, l.IsSteady ∧ l.qualifier ≠ .datatype "")
    (hinverses : ∀ p ∈ s.patterns, hasDoubleInverse p.predicate = false)
    (hfocus : s.pathLength ≠ 0 → FocusOnVariables s.patterns) :
    ∃ query after reread, s.recommendationQuery .recommendation [] = (.ok query, after) ∧
      parse query.toList = .ok reread ∧ reread.patterns = after.patterns.map unmarked := by
  have hshape := parse_shaped h
  obtain ⟨kept, after, written, hafter, hwritten, hquery⟩ := recommendationQuery_of_parse h
  have hkept : ∀ p ∈ kept, Legible p := by
    intro p hp
    have hmem := hafter.sublist.subset hp
    exact ⟨hshape.patterns p hmem, fun l hl => hliterals l (mem_literals hmem hl), hinverses p hmem⟩
  -- trimming keeps the first pattern with the point of focus for its predicate
  have hfirst : s.pathLength ≠ 0 → FocusOnVariables kept := by
    intro hne p hp
    refine hfocus hne p ?_
    rwa [← List.head?_filter, hafter.focus, List.head?_filter] at hp
  have hexpand := legible_expand (s := s.keeping kept) hkept hshape.pathLength hfirst
  have hprojection := projection_expand (s := s.keeping kept) hshape.projection
  have hpatterns : ∀ p ∈ after.patterns, Legible p := by
    obtain ⟨subjects, rfl⟩ := hafter.expanded
    intro p hp
    obtain ⟨q, hq, rfl⟩ := List.mem_map.1 hp
    have hlegible := hexpand q hq
    exact ⟨⟨hlegible.shape.subject, hlegible.shape.predicate, hlegible.shape.object⟩, hlegible.literals,
      hlegible.inverses⟩
  have hselected : SelectedWritten after.projection := by
    obtain ⟨subjects, rfl⟩ := hafter.expanded
    exact hprojection
  obtain ⟨again, reread, hagain, hparse, hread⟩ := recommendationText_reread hselected hpatterns
  cases hwritten.symm.trans hagain
  exact ⟨_, after, reread, hquery, hparse, hread⟩

/-- A path of two predicates is sought, and there are a path and a literal with a quote in it. -/
theorem recommendationQuery_reread_path :
    ∃ s, parse "SELECT * \x7b ?s 2/< ?o . ?o ^(<q>|<r>)/a \"a\\\"b\"@en \x7d".toList = .ok s ∧
      ∃ query after reread, s.recommendationQuery .recommendation [] = (.ok query, after) ∧
        parse query.toList = .ok reread ∧ reread.patterns = after.patterns.map unmarked := by
  have hread : ((parse "SELECT * \x7b ?s 2/< ?o . ?o ^(<q>|<r>)/a \"a\\\"b\"@en \x7d".toList).toOption.map fun s =>
      (literals s.patterns, s.patterns.any (hasDoubleInverse ·.predicate), decide (FocusOnVariables s.patterns))) =
      some ([⟨"a\"b", .language "en"⟩], false, true) := by decide +kernel
  cases hparse : parse "SELECT * \x7b ?s 2/< ?o . ?o ^(<q>|<r>)/a \"a\\\"b\"@en \x7d".toList with
  | error e =>
    rw [hparse] at hread
    cases hread
  | ok s =>
    simp only [hparse, Except.toOption, Option.map_some, Option.some.injEq, Prod.mk.injEq] at hread
    obtain ⟨hliterals, hinverses, hfocus⟩ := hread
    have hsteady : Literal.IsSteady ⟨"a\"b", .language "en"⟩ := by
      refine ⟨by decide, ?_, ?_⟩
      · intro v hv
        cases hv
        rfl
      · intro iri hiri
        cases hiri
    refine ⟨s, rfl, recommendationQuery_reread hparse ?_ ?_ fun _ => of_decide_eq_true hfocus⟩
    · rw [hliterals]
      exact List.forall_mem_singleton.2 ⟨hsteady, by decide⟩
    · simpa using hinverses

/-- A literal whose datatype is the empty IRI is written without it, and so it is read as a plain one. -/
theorem recommendationQuery_empty_datatype : ¬ ∀ (text : List Char) (s : Scope), parse text = .ok s →
    (∀ l ∈ literals s.patterns, l.IsSteady) → (∀ p ∈ s.patterns, hasDoubleInverse p.predicate = false) →
    (s.pathLength ≠ 0 → FocusOnVariables s.patterns) →
    ∃ query after reread, s.recommendationQuery .recommendation [] = (.ok query, after) ∧
      parse query.toList = .ok reread ∧ reread.patterns = after.patterns.map unmarked := by
  intro hall
  have hread : ((parse "SELECT * \x7b ?s < \"x\"^^<> . ?s ?p ?o \x7d".toList).toOption.map fun s =>
      let first := s.recommendationQuery .recommendation []
      (literals s.patterns, s.patterns.any (hasDoubleInverse ·.predicate), s.pathLength,
        literals (first.2.patterns.map unmarked),
        first.1.toOption.bind fun query => (parse query.toList).toOption.map (literals ·.patterns))) =
      some ([⟨"x", .datatype ""⟩], false, 0, [⟨"x", .datatype ""⟩], some [⟨"x", .none⟩]) := by decide +kernel
  cases hparse : parse "SELECT * \x7b ?s < \"x\"^^<> . ?s ?p ?o \x7d".toList with
  | error e =>
    rw [hparse] at hread
    cases hread
  | ok s =>
    simp only [hparse, Except.toOption, Option.map_some, Option.some.injEq, Prod.mk.injEq] at hread
    obtain ⟨hliterals, hinverses, hlength, hwritten, hreread⟩ := hread
    have hsteady : Literal.IsSteady ⟨"x", .datatype ""⟩ := by
      refine ⟨by decide, ?_, ?_⟩
      · intro v hv
        cases hv
      · rintro _ ⟨⟩
        decide +kernel
    obtain ⟨query, after, reread, hquery, hagain, hsame⟩ := hall _ s hparse
      (by rw [hliterals]; exact List.forall_mem_singleton.2 hsteady) (by simpa using hinverses) fun h => absurd hlength h
    rw [hquery] at hwritten hreread
    simp only [Option.bind_some, hagain, Option.map_some, hsame, hwritten] at hreread
    exact absurd hreread (by decide)

end Scope

end PointOfFocus
