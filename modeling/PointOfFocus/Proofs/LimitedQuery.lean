import PointOfFocus.Proofs.PathExpansion
import PointOfFocus.Proofs.Query.BrokenNames
import PointOfFocus.Proofs.Query.LimitText

/-!
# Limits and patterns

Setting the limit of a recommendation query leaves its patterns as they are, unless it changes the line of a pattern
(`setLimit_patterns`). A line changes if a text or an IRI in it has a limit clause inside.

Not every recommendation query is read. Its lines are read one after the other, up to the first one that the parser stops
in, and there may be none (`lines_cases`). Where the query is read, all lines stand for patterns, and they do so too in the
query with another limit.
-/

namespace PointOfFocus

open PointOfFocus.Number (maxDigits)
open PointOfFocus.Query
open PointOfFocus.Rdf
open PointOfFocus.Template (patternLine filterText recommendationText render_parts)

/-! ### Lines that are read -/

/-- The pattern starts with a variable whose name is not one. -/
def HasBrokenName (p : Pattern) : Prop :=
  ∃ x y, p.subject = .var x ∧ p.predicate = .var y ∧ (∀ c ∈ x.toList, IsNameChar c) ∧ ∃ c ∈ x.toList, isVarChar c = false

/-- The patterns have the shape of those of a query, up to one that has a broken name. -/
inductive ShapedToBreak : List Pattern → Prop where
  | nil : ShapedToBreak []
  | cons {p : Pattern} {ps : List Pattern} (hp : PatternShape p) (hps : ShapedToBreak ps) : ShapedToBreak (p :: ps)
  | broken {p : Pattern} {ps : List Pattern} (hp : HasBrokenName p) : ShapedToBreak (p :: ps)

private theorem ShapedToBreak.append {before ps : List Pattern} (hbefore : ∀ p ∈ before, PatternShape p)
    (h : ShapedToBreak ps) : ShapedToBreak (before ++ ps) := by
  induction before with
  | nil => exact h
  | cons p before ih =>
    obtain ⟨hp, hbefore⟩ := List.forall_mem_cons.1 hbefore
    exact .cons hp (ih hbefore)

private theorem ShapedToBreak.of_forall {ps : List Pattern} (h : ∀ p ∈ ps, PatternShape p) : ShapedToBreak ps := by
  simpa using ShapedToBreak.append h .nil

private theorem ShapedToBreak.marked {ps : List Pattern} (h : ShapedToBreak ps) (subjects : List String) :
    ShapedToBreak (ps.map (Scope.marked subjects)) := by
  induction h with
  | nil => exact .nil
  | cons hp _ ih => exact .cons ⟨hp.subject, hp.predicate, hp.object⟩ ih
  | broken hp => exact .broken hp

private theorem unreadable_of_brokenName {p : Pattern} (h : HasBrokenName p) {line : String}
    (hline : p.render = .ok line) : Unreadable (patternLine line) := by
  obtain ⟨x, y, hsubject, hpredicate, hx, hbad⟩ := h
  obtain ⟨s, q, o, hs, hq, -, rfl⟩ := render_parts hline
  obtain rfl : "?" ++ x = s := by
    rw [hsubject, Term.render] at hs
    exact Except.ok.inj hs
  obtain rfl : "?" ++ y = q := by
    rw [hpredicate, Term.renderPredicate, if_neg (by simp [Term.isType]), Term.render] at hq
    exact Except.ok.inj hq
  have hname := unreadable_of_name hx hbad (y ++ " " ++ o ++ " ." ++ "\n")
  simpa only [patternLine, String.append_assoc] using hname

/-- The lines of such patterns stand for patterns, or the parser stops in one of them. -/
theorem lines_cases {ps : List Pattern} (h : ShapedToBreak ps) {written : List String}
    (hwritten : List.Forall₂ (fun p line => p.render = .ok line) ps written) :
    (∃ qs, List.Forall₂ LineWritten (written.map patternLine) qs) ∨ Unreadable (String.join (written.map patternLine)) := by
  induction h generalizing written with
  | nil =>
    obtain rfl := List.forall₂_nil_left_iff.1 hwritten
    exact .inl ⟨[], .nil⟩
  | cons hp _ ih =>
    obtain ⟨line, lines, hline, hlines, rfl⟩ := List.forall₂_cons_left_iff.1 hwritten
    rw [List.map_cons, String.join_cons]
    rcases line_cases hp hline with ⟨q, hq⟩ | hstops
    · rcases ih hlines with ⟨qs, hqs⟩ | hstops
      · exact .inl ⟨q :: qs, .cons hq hqs⟩
      · exact .inr (hstops.after_line hq)
    · exact .inr (hstops.append _)
  | broken hp =>
    obtain ⟨line, lines, hline, -, rfl⟩ := List.forall₂_cons_left_iff.1 hwritten
    rw [List.map_cons, String.join_cons]
    exact .inr ((unreadable_of_brokenName hp hline).append _)

/-! ### Names of the nodes of a path -/

private theorem isNameChar_of_mem_name {t : Term} (h : NodeShape t) : ∀ c ∈ t.name.toList, IsNameChar c := by
  have hother : ∀ c ∈ (String.ofList (t.text.toList.filter Text.isWord)).toList, IsNameChar c := by
    intro c hc
    rw [String.toList_ofList] at hc
    exact .inr (List.mem_filter.1 hc).2
  cases t with
  | var x => exact fun c hc => .inl (h.2 c hc)
  | _ => exact hother

private theorem isNameChar_of_mem_stem {p : Pattern} (h : PatternShape p) :
    ∀ c ∈ (p.subject.name ++ p.object.name).toList, IsNameChar c := by
  intro c hc
  rw [String.toList_append, List.mem_append] at hc
  rcases hc with hc | hc
  · exact isNameChar_of_mem_name h.subject c hc
  · exact isNameChar_of_mem_name h.object c hc

namespace Scope

/-- If the names of the ends of a path are names of variables, then so are those of its nodes. -/
private theorem chainNode_shape {p : Pattern} (h : PatternShape p)
    (hstem : ∀ c ∈ (p.subject.name ++ p.object.name).toList, isVarChar c = true) (i : Nat) :
    NodeShape (chainNode p.subject (p.subject.name ++ p.object.name) i) := by
  cases i with
  | zero => exact h.subject
  | succ i =>
    rw [chainNode_succ (not_mem_stem h)]
    refine ⟨by simp, fun c hc => ?_⟩
    rw [String.toList_append, List.mem_append] at hc
    rcases hc with hc | hc
    · exact hstem c hc
    · exact isVarChar_of_mem_repr hc

private theorem hop_shape {i : Int} (h : 0 ≤ i) : VerbShape (.hop i) := .inl (hop_legible h)

/-- If a path has nodes and they have broken names, then its last hop starts with one of them. -/
private theorem lastHop_brokenName {p : Pattern} (h : PatternShape p) {length : Int} (hlength : 0 ≤ length) {k : Nat}
    (hcount : (length - 1).toNat = k + 1)
    (hstem : ¬∀ c ∈ (p.subject.name ++ p.object.name).toList, isVarChar c = true) : HasBrokenName (lastHop length p) := by
  obtain ⟨y, hy, -⟩ := hop_legible hlength
  simp only [not_forall, Bool.not_eq_true] at hstem
  obtain ⟨c, hc, hbad⟩ := hstem
  refine ⟨p.subject.name ++ p.object.name ++ (k + 1).repr, y, ?_, hy, fun d hd => ?_, c, ?_, hbad⟩
  · rw [lastHop, hcount]
    exact chainNode_succ (not_mem_stem h) p.subject k
  · rw [String.toList_append, List.mem_append] at hd
    rcases hd with hd | hd
    · exact isNameChar_of_mem_stem h d hd
    · exact .inl (isVarChar_of_mem_repr hd)
  · rw [String.toList_append]
    exact List.mem_append_left _ hc

/-- The patterns of a scope have the shape of those of a query when the path is written out, up to the first node that has a
broken name. -/
private theorem expand_shapedToBreak {s : Scope} (h : ∀ p ∈ s.patterns, PatternShape p) (hlength : 0 ≤ s.pathLength) :
    ShapedToBreak s.expand.patterns := by
  rcases expand_cases s with ⟨heq, -⟩ | ⟨before, p, after, -, hsplit, -, -, heq⟩
  · rw [heq]
    exact .of_forall h
  · rw [heq]
    rw [hsplit] at h
    have hp : PatternShape p := h p (by simp)
    have hbefore : ∀ q ∈ before, PatternShape q := fun q hq => h q (by simp [hq])
    have hafter : ∀ q ∈ after, PatternShape q := fun q hq => h q (by simp [hq])
    have hlast (hnode : NodeShape (lastHop s.pathLength p).subject) (hfirst : ∀ q ∈ firstHops s.pathLength p, PatternShape q) :
        ShapedToBreak (before ++ lastHop s.pathLength p :: after ++ firstHops s.pathLength p) := by
      rw [List.append_assoc, List.cons_append]
      exact .append hbefore (.cons ⟨hnode, hop_shape hlength, hp.object⟩ (.append hafter (.of_forall hfirst)))
    by_cases hstem : ∀ c ∈ (p.subject.name ++ p.object.name).toList, isVarChar c = true
    · refine hlast (chainNode_shape hp hstem _) fun q hq => ?_
      obtain ⟨i, -, rfl⟩ := List.mem_map.1 hq
      exact ⟨chainNode_shape hp hstem i, hop_shape (by omega), chainNode_shape hp hstem (i + 1)⟩
    · -- A stem that holds other characters breaks the first name that is made from it, and there is none for one hop.
      cases hcount : (s.pathLength - 1).toNat with
      | zero =>
        refine hlast ?_ ?_
        · rw [lastHop, hcount]
          exact hp.subject
        · simp [firstHops, chainPatterns, hcount]
      | succ k =>
        rw [List.append_assoc, List.cons_append]
        exact .append hbefore (.broken (lastHop_brokenName hp hlength hcount hstem))

/-! ### The patterns of a query with another limit -/

/-- The projection of a scope that was prepared is that of the focus or that of a path. -/
private theorem projection_cases {text : List Char} {s after : Scope} {query : Except Template.RenderError String}
    (h : parse text = .ok s) (hquery : s.recommendationQuery .recommendation [] = (query, after)) :
    after.projection = defaultProjection ∨ ∃ length, after.projection = pathProjection length := by
  obtain ⟨-, hprojection⟩ := projection_prepare h
  have hscope : (s.recommendationQuery .recommendation []).2 = s.prepare.2 := recommendationQuery_scope s
  rw [← hscope, hquery] at hprojection
  split at hprojection
  · exact .inl hprojection
  · exact .inr ⟨_, hprojection⟩

private theorem projection_selected {projection : String}
    (h : projection = defaultProjection ∨ ∃ length, projection = pathProjection length) : SelectedWritten projection := by
  rcases h with rfl | ⟨length, rfl⟩
  · exact defaultProjection_written
  · exact pathProjection_written length

/-- The lines of a query with filters and a limit are read as the patterns that they stand for, whatever the filters and
the limit are. -/
private theorem parse_lines {projection : String} (hprojection : SelectedWritten projection) {lines : List String}
    {ps : List Pattern}
    (hlines : List.Forall₂ LineWritten lines ps) (keyword iriStart : Option String) {ending : String}
    (hending : EndWritten ending) : ∃ r, parse ("SELECT DISTINCT " ++ projection ++ "\nWHERE \x7b\n" ++ String.join lines ++
      filterText "  FILTER regex(?POF, \"" "\", \"i\")\n" keyword ++
      filterText "  FILTER strstarts(str(?POF), \"" "\")\n" iriStart ++ ending).toList = .ok r ∧ r.patterns = ps := by
  obtain ⟨_, hiris⟩ := BodyWritten.nil.iriStart iriStart
  obtain ⟨_, hfilters⟩ := hiris.keyword keyword
  obtain ⟨_, hbody⟩ := hfilters.lines hlines
  obtain ⟨r, hparse, hpatterns⟩ := parse_recommendation hprojection hbody hending
  refine ⟨r, ?_, hpatterns⟩
  simpa only [String.append_assoc, String.append_empty] using hparse

/-- With another limit clause, whatever its number, the query is read as the same patterns. -/
theorem putClause_patterns {text : List Char} {s after r : Scope} {query : String} (hparse : parse text = .ok s)
    (hquery : s.recommendationQuery .recommendation [] = (.ok query, after)) (hread : parse query.toList = .ok r) (n : Nat)
    (hlines : ∀ p ∈ after.patterns, ∀ line, p.render = .ok line →
      replaceClauses (limitClause n.repr) false line.toList = line.toList) :
    ∃ limited, parse (putClause (limitClause n.repr) query.toList) = .ok limited ∧ limited.patterns = r.patterns := by
  have hprojection := projection_cases hparse hquery
  have hselected := projection_selected hprojection
  obtain ⟨kept, _, written, hafter, hwritten, hsame⟩ := recommendationQuery_of_parse hparse
  obtain ⟨hqueryText, rfl⟩ := Prod.mk.inj (hquery.symm.trans hsame)
  obtain rfl := Except.ok.inj hqueryText
  have hshaped : ShapedToBreak after.patterns := by
    have hkept : ∀ p ∈ kept, PatternShape p := fun p hp => (parse_shaped hparse).patterns p (hafter.sublist.subset hp)
    obtain ⟨subjects, hexpanded⟩ := hafter.expanded
    rw [hexpanded]
    exact (expand_shapedToBreak (s := s.keeping kept) hkept (parse_shaped hparse).pathLength).marked subjects
  rcases lines_cases hshaped (forall₂_of_mapM hwritten) with ⟨qs, hqs⟩ | hstops
  · -- both queries have the same lines, and only the modifier at the end differs
    obtain ⟨keyword, iriStart, hlimited⟩ := putClause_recommendationText hprojection hwritten hlines
    have hdigits : ∀ c ∈ n.repr.toList, c ∈ "0123456789".toList := fun c hc => mem_digits_of_isDigit (isDigit_of_mem_repr hc)
    have hending := endWritten_of_digits (by simp) hdigits
    obtain ⟨r', hr', hpatterns⟩ := parse_lines hselected hqs after.keyword after.iriStart endWritten_default
    obtain ⟨limited, hparsed, hlast⟩ := parse_lines hselected hqs keyword iriStart hending
    have hr : r' = r := Except.ok.inj (hr'.symm.trans hread)
    rw [hlimited]
    exact ⟨limited, hparsed, by rw [hlast, ← hr, hpatterns]⟩
  · -- the parser would have stopped in the query
    obtain ⟨e, hfails⟩ := parse_of_unreadable hselected (hstops.append
      (filterText "  FILTER regex(?POF, \"" "\", \"i\")\n" after.keyword ++
        (filterText "  FILTER strstarts(str(?POF), \"" "\")\n" after.iriStart ++ "\x7d\nLIMIT 10\n")))
    unfold recommendationText at hread
    simp only [String.append_assoc] at hread hfails
    cases hread.symm.trans hfails

/-- Setting the limit of a recommendation query that is read leaves its patterns as they are, if it leaves the lines of the
patterns as they are. -/
theorem setLimit_patterns {text : List Char} {s after r : Scope} {query : String} (hparse : parse text = .ok s)
    (hquery : s.recommendationQuery .recommendation [] = (.ok query, after)) (hread : parse query.toList = .ok r) {n : Nat}
    (hn : 1 ≤ n ∧ n ≤ 10000) (hlines : ∀ p ∈ after.patterns, ∀ line, p.render = .ok line →
      replaceClauses (limitClause n.repr) false line.toList = line.toList) :
    ∃ limited reread, setLimit n query.toList = .ok limited ∧ parse limited = .ok reread ∧
      reread.patterns = r.patterns := by
  obtain ⟨reread, hlimited, hpatterns⟩ := putClause_patterns hparse hquery hread n hlines
  have hshort : 4 < maxDigits := by decide
  have hdigits : n < 10 ^ maxDigits := by
    calc n ≤ 10 ^ 4 := hn.2
      _ < 10 ^ maxDigits := Nat.pow_lt_pow_right (by decide) hshort
  exact ⟨_, reread, by rw [setLimit_eq, if_pos hdigits], hlimited, hpatterns⟩

/-- A path of two predicates is sought, and a text ends in the word of a limit clause. -/
theorem setLimit_patterns_path : ∃ s query after r limited reread,
    parse "SELECT * \x7b ?s 2/< ?o . ?o <p> \"no limit\" \x7d".toList = .ok s ∧
      s.recommendationQuery .recommendation [] = (.ok query, after) ∧ parse query.toList = .ok r ∧
      setLimit 5 query.toList = .ok limited ∧ parse limited = .ok reread ∧ reread.patterns = r.patterns := by
  have hread : ((parse "SELECT * \x7b ?s 2/< ?o . ?o <p> \"no limit\" \x7d".toList).toOption.map fun s =>
      let first := s.recommendationQuery .recommendation []
      (first.1.toOption.any fun query => (parse query.toList).toOption.isSome, first.2.patterns.all fun p =>
        p.render.toOption.all fun line => replaceClauses (limitClause "5") false line.toList = line.toList)) =
      some (true, true) := by decide +kernel
  obtain ⟨s, hparse, hs⟩ := exists_ok_of_map hread
  obtain ⟨hquery, hlines⟩ := Prod.mk.inj hs
  obtain ⟨_, after, written, -, -, hfirst⟩ := recommendationQuery_of_parse hparse
  rw [hfirst] at hquery hlines
  cases hparsed : parse (recommendationText after written).toList with
  | error e => simp [hparsed, Except.toOption] at hquery
  | ok r =>
    have hsame : ∀ p ∈ after.patterns, ∀ line, p.render = .ok line →
        replaceClauses (limitClause (5 : Nat).repr) false line.toList = line.toList := by
      intro p hp line hline
      have hkept := List.all_eq_true.1 hlines p hp
      rw [hline] at hkept
      exact of_decide_eq_true hkept
    obtain ⟨limited, reread, hlimited, hreread, hpatterns⟩ := setLimit_patterns hparse hfirst hparsed (by decide) hsame
    exact ⟨s, _, after, r, limited, reread, hparse, hfirst, hparsed, hlimited, hreread, hpatterns⟩

/-- A limit clause inside a text of the patterns is replaced like that of the query. -/
theorem setLimit_patterns_literal : ¬ ∀ (text : List Char) (s after r : Scope) (query : String) (n : Nat),
    parse text = .ok s → s.recommendationQuery .recommendation [] = (.ok query, after) → parse query.toList = .ok r →
    1 ≤ n → n ≤ 10000 → ∃ limited reread, setLimit n query.toList = .ok limited ∧ parse limited = .ok reread ∧
      reread.patterns = r.patterns := by
  intro hall
  have hread : ((parse "SELECT * \x7b ?s < \"limit 5\" \x7d".toList).toOption.map fun s =>
      (s.recommendationQuery .recommendation []).1.toOption.map fun query =>
        ((parse query.toList).toOption.map (literals ·.patterns),
          (setLimit 3 query.toList).toOption.bind fun limited => (parse limited).toOption.map (literals ·.patterns))) =
      some (some (some [⟨"limit 5", .none⟩], some [⟨"LIMIT 3", .none⟩])) := by decide +kernel
  obtain ⟨s, hparse, hs⟩ := exists_ok_of_map hread
  obtain ⟨_, after, written, -, -, hfirst⟩ := recommendationQuery_of_parse hparse
  rw [hfirst] at hs
  obtain ⟨hbefore, hlimited⟩ := Prod.mk.inj (Option.some.inj hs)
  obtain ⟨r, hr, hliterals⟩ := exists_ok_of_map hbefore
  obtain ⟨limited, reread, hset, hparsed, hpatterns⟩ := hall _ s after r _ 3 hparse hfirst hr (by decide) (by decide)
  have hset' : setLimit 3 (recommendationText after written).toList = .ok limited := hset
  simp only [hset', hparsed, Except.toOption, Option.bind_some, Option.map_some, hpatterns, hliterals] at hlimited
  exact absurd hlimited (by decide)

end Scope

end PointOfFocus
