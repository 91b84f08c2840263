import Mathlib.Data.Set.Basic
import PointOfFocus.Proofs.Scope.Preparation

/-!
# Solutions of patterns

What a conjunction of patterns asks of a graph. A graph is a set of triples of values, and a property path, which is made
of IRIs alone, leads from some values to others. A solution gives a value to just the unknowns of the patterns, that is
their variables and their blank nodes, so that every pattern holds in the graph.

A solution of some patterns is, cut down to their unknowns, one of fewer patterns (`Solution.restrict`), and solutions of
patterns without common unknowns can be put together (`Solution.glue`). Trimming separates the unknowns: a pattern that
shares one with a connected pattern is connected itself (`Connected.of_unknown`). So it loses none of the values that
solutions give to the point of focus, and gains none as long as the patterns that it drops have a solution of their own
(`Scope.trim_focus_values`).
-/

namespace PointOfFocus

open PointOfFocus.Rdf

/-! ### Graphs -/

/-- What a graph speaks of. -/
inductive Rdf.Value where
  | iri (name : String)
  | literal (value : Literal)
  | node (label : String)

/-- A graph: its triples, and which values a property path connects. -/
structure Rdf.Graph where
  triples : Set (Value × Value × Value)
  connects : Term → Value → Value → Prop

/-- What a solution gives a value to. The blank nodes of a query are read like variables. -/
inductive Rdf.Unknown where
  | var (name : String)
  | blank (label : String)

/-- Values for some of the unknowns. -/
abbrev Rdf.Assignment := Unknown → Option Value

namespace Rdf.Term

/-- The unknown that the term is. -/
def unknown? : Term → Option Unknown
  | .var name => some (.var name)
  | .blank label => some (.blank label)
  | _ => none

/-- The value of the term, if it has one: paths have none. -/
def value? (μ : Assignment) : Term → Option Value
  | .var name => μ (.var name)
  | .blank label => μ (.blank label)
  | .literal value => some (.literal value)
  | .iri name => some (.iri name)
  | .sequence _ | .alternative _ | .inverse _ => none

private theorem value?_congr {μ ν : Assignment} {t : Term} (h : ∀ x, t.unknown? = some x → μ x = ν x) :
    t.value? μ = t.value? ν := by
  cases t with
  | var name => exact h _ rfl
  | blank label => exact h _ rfl
  | _ => rfl

end Rdf.Term

namespace Rdf.Graph

/-- The predicate relates the values: a path connects them, or they are in a triple with the predicate's value. -/
def Relates (g : Graph) (μ : Assignment) (predicate : Term) (s o : Value) : Prop :=
  if predicate.isPath then g.connects predicate s o
  else ∃ q, predicate.value? μ = some q ∧ (s, q, o) ∈ g.triples

/-- The pattern holds in the graph under the assignment. -/
def Holds (g : Graph) (μ : Assignment) (p : Pattern) : Prop :=
  ∃ s o, p.subject.value? μ = some s ∧ p.object.value? μ = some o ∧ g.Relates μ p.predicate s o

end Rdf.Graph

/-- The unknown is one of the pattern's terms. -/
def Pattern.HasUnknown (p : Pattern) (x : Unknown) : Prop :=
  p.subject.unknown? = some x ∨ p.predicate.unknown? = some x ∨ p.object.unknown? = some x

/-- The assignment gives values to just the unknowns of the patterns, and all of these hold under it. -/
structure Solution (g : Graph) (patterns : List Pattern) (μ : Assignment) : Prop where
  domain : ∀ x, (μ x).isSome ↔ ∃ p ∈ patterns, p.HasUnknown x
  holds : ∀ p ∈ patterns, g.Holds μ p

/-- The point of focus has the value in a solution of the patterns. -/
def FocusValue (g : Graph) (patterns : List Pattern) (v : Value) : Prop :=
  ∃ μ, Solution g patterns μ ∧ μ (.var "POF") = some v

/-! ### Restricting and gluing -/

private theorem holds_congr {g : Graph} {μ ν : Assignment} {p : Pattern} (h : ∀ x, p.HasUnknown x → μ x = ν x)
    (hp : g.Holds μ p) : g.Holds ν p := by
  obtain ⟨s, o, hs, ho, hrelates⟩ := hp
  have hsubject := Term.value?_congr fun x hx => h x (.inl hx)
  have hpredicate := Term.value?_congr fun x hx => h x (.inr (.inl hx))
  have hobject := Term.value?_congr fun x hx => h x (.inr (.inr hx))
  refine ⟨s, o, hsubject ▸ hs, hobject ▸ ho, ?_⟩
  unfold Graph.Relates at hrelates ⊢
  rwa [← hpredicate]

open scoped Classical in
/-- A solution of some patterns, cut down to the unknowns of fewer patterns, is a solution of these. -/
theorem Solution.restrict {g : Graph} {ps qs : List Pattern} {μ : Assignment} (h : Solution g ps μ) (hsub : qs ⊆ ps) :
    Solution g qs fun x => if ∃ q ∈ qs, q.HasUnknown x then μ x else none where
  domain x := by
    by_cases hx : ∃ q ∈ qs, q.HasUnknown x
    · obtain ⟨q, hq, hqx⟩ := hx
      have hsome : (μ x).isSome := (h.domain x).2 ⟨q, hsub hq, hqx⟩
      have hex : ∃ q ∈ qs, q.HasUnknown x := ⟨q, hq, hqx⟩
      simp [hex, hsome]
    · simp [hx]
  holds q hq := by
    refine holds_congr (fun x hx => ?_) (h.holds q (hsub hq))
    have hex : ∃ q ∈ qs, q.HasUnknown x := ⟨q, hq, hx⟩
    rw [if_pos hex]

/-- Solutions of patterns without common unknowns make a solution of all of them. -/
theorem Solution.glue {g : Graph} {ps qs rs : List Pattern} {μ ν : Assignment} (hp : Solution g ps μ)
    (hq : Solution g qs ν) (hmem : ∀ r, r ∈ rs ↔ r ∈ ps ∨ r ∈ qs)
    (hapart : ∀ p ∈ ps, ∀ q ∈ qs, ∀ x, p.HasUnknown x → ¬q.HasUnknown x) :
    Solution g rs fun x => (μ x).or (ν x) where
  domain x := by
    have hboth : (∃ r ∈ rs, r.HasUnknown x) ↔ (∃ p ∈ ps, p.HasUnknown x) ∨ ∃ q ∈ qs, q.HasUnknown x := by
      constructor
      · rintro ⟨r, hr, hx⟩
        rcases (hmem r).1 hr with hr | hr
        · exact .inl ⟨r, hr, hx⟩
        · exact .inr ⟨r, hr, hx⟩
      · rintro (⟨r, hr, hx⟩ | ⟨r, hr, hx⟩)
        · exact ⟨r, (hmem r).2 (.inl hr), hx⟩
        · exact ⟨r, (hmem r).2 (.inr hr), hx⟩
    rw [hboth, ← hp.domain x, ← hq.domain x]
    cases μ x <;> simp
  holds r hr := by
    rcases (hmem r).1 hr with hr | hr
    · refine holds_congr (fun x hx => ?_) (hp.holds r hr)
      obtain ⟨v, hv⟩ := Option.isSome_iff_exists.1 ((hp.domain x).2 ⟨r, hr, hx⟩)
      rw [hv, Option.some_or]
    · refine holds_congr (fun x hx => ?_) (hq.holds r hr)
      -- no pattern of the first kind has the unknown, so the first solution says nothing of it
      have hnone : μ x = none := by
        by_contra hsome
        obtain ⟨p, hpmem, hpx⟩ := (hp.domain x).1 (Option.isSome_iff_ne_none.2 hsome)
        exact hapart p hpmem r hr x hpx hx
      rw [hnone, Option.none_or]

/-! ### Unknowns and keys -/

/-- The key of a term that is the unknown. -/
def Rdf.Unknown.key : Unknown → String
  | .var name => "?" ++ name
  | .blank label => "_:" ++ label

private theorem key_of_unknown? {t : Term} {x : Unknown} (h : t.unknown? = some x) : t.key = .ok x.key := by
  cases t with
  | var name => cases h; rfl
  | blank label => cases h; rfl
  | _ => cases h

private theorem keys_eq_ok {p : Pattern} {ks : List String} (h : p.keys = .ok ks) :
    ∃ s q o, p.subject.key = .ok s ∧ p.predicate.key = .ok q ∧ p.object.key = .ok o ∧ ks = [s, q, o] := by
  unfold Pattern.keys at h
  cases hs : p.subject.key with
  | error e => rw [hs] at h; cases h
  | ok s =>
    cases hq : p.predicate.key with
    | error e => rw [hs, hq] at h; cases h
    | ok q =>
      cases ho : p.object.key with
      | error e => rw [hs, hq, ho] at h; cases h
      | ok o =>
        rw [hs, hq, ho] at h
        cases h
        exact ⟨s, q, o, rfl, rfl, rfl, rfl⟩

private theorem Pattern.HasUnknown.hasKey {p : Pattern} (hkeys : ∃ ks, p.keys = .ok ks) {x : Unknown}
    (h : p.HasUnknown x) : p.HasKey x.key := by
  obtain ⟨ks, hks⟩ := hkeys
  obtain ⟨s, q, o, hs, hq, ho, rfl⟩ := keys_eq_ok hks
  refine ⟨_, hks, ?_⟩
  rcases h with h | h | h
  · cases hs.symm.trans (key_of_unknown? h)
    simp
  · cases hq.symm.trans (key_of_unknown? h)
    simp
  · cases ho.symm.trans (key_of_unknown? h)
    simp

/-- A pattern that shares an unknown with a connected one is connected. -/
theorem Connected.of_unknown {patterns : List Pattern} {focus : List String}
    (hkeys : ∀ p ∈ patterns, ∃ ks, p.keys = .ok ks) {p q : Pattern} (hp : Connected patterns focus p) (hq : q ∈ patterns)
    {x : Unknown} (hpx : p.HasUnknown x) (hqx : q.HasUnknown x) : Connected patterns focus q :=
  .next hp hq ⟨x.key, hpx.hasKey (hkeys p hp.mem), hqx.hasKey (hkeys q hq)⟩

/-! ### Trimming -/

namespace Scope

open scoped Classical in
/-- Every value that the point of focus has in a solution of all patterns, it has in a solution of those that trimming
keeps. If those that are dropped have a solution too, there are no further values. -/
theorem trim_focus_values (g : Graph) (s : Scope) (h : ∀ p ∈ s.patterns, ∃ text, p.render = .ok text) :
    ∃ t, s.trim = .ok t ∧ (∀ v, FocusValue g s.patterns v → FocusValue g t.patterns v) ∧
      ((∃ μ, Solution g (s.patterns.filter (· ∉ t.patterns)) μ) →
        ∀ v, FocusValue g t.patterns v → FocusValue g s.patterns v) := by
  have hkeys : ∀ p ∈ s.patterns, ∃ ks, p.keys = .ok ks := by
    intro p hp
    obtain ⟨text, htext⟩ := h p hp
    exact Pattern.keys_of_render htext
  refine ⟨_, trim_eq hkeys, ?_, ?_⟩
  all_goals
    generalize hkept : s.patterns.filter (fun p => Connected s.patterns s.focusKeys p) = kept
    have hmem : ∀ p, p ∈ kept ↔ Connected s.patterns s.focusKeys p := by
      intro p
      rw [← hkept, List.mem_filter, decide_eq_true_iff]
      exact ⟨And.right, fun hp => ⟨hp.mem, hp⟩⟩
  · rintro v ⟨μ, hμ, hv⟩
    -- a pattern with the point of focus is never dropped
    obtain ⟨p, hp, hpx⟩ := (hμ.domain (.var "POF")).1 (Option.isSome_of_eq_some hv)
    have hconnected : Connected s.patterns s.focusKeys p := .start hp (focus_mem_focusKeys s) (hpx.hasKey (hkeys p hp))
    have hex : ∃ q ∈ kept, q.HasUnknown (.var "POF") := ⟨p, (hmem p).2 hconnected, hpx⟩
    refine ⟨_, hμ.restrict fun q hq => ((hmem q).1 hq).mem, ?_⟩
    rw [if_pos hex, hv]
  · rintro ⟨ν, hν⟩ v ⟨μ, hμ, hv⟩
    refine ⟨_, hμ.glue hν (fun r => ?_) fun p hp q hq x hpx hqx => ?_, by rw [hv, Option.some_or]⟩
    · rw [List.mem_filter, decide_eq_true_iff]
      by_cases hr : r ∈ kept
      · simp [hr, ((hmem r).1 hr).mem]
      · simp [hr]
    · obtain ⟨hq, hdropped⟩ := List.mem_filter.1 hq
      exact of_decide_eq_true hdropped ((hmem q).2 (((hmem p).1 hp).of_unknown hkeys hq hpx hqx))

/-- The pattern `?a <p> ?b` is dropped, and `?s ?POF ?o` is kept: in a graph with a triple for either of them the point
of focus has the same values for both lists. -/
theorem trim_focus_values_two :
    let g : Graph := ⟨{(.iri "x", .iri "p", .iri "y"), (.iri "x", .iri "q", .iri "z")}, fun _ _ _ => False⟩
    let patterns : List Pattern := [{ subject := .var "a", predicate := .iri "p", object := .var "b" },
      { subject := .var "s", predicate := .focus, object := .var "o" }]
    ∃ t, Scope.trim { patterns } = .ok t ∧ FocusValue g patterns (.iri "q") ∧
      ∀ v, FocusValue g patterns v ↔ FocusValue g t.patterns v := by
  intro g patterns
  let μ : Assignment := fun x => match x with
    | .var "a" => some (.iri "x")
    | .var "b" => some (.iri "y")
    | .var "s" => some (.iri "x")
    | .var "POF" => some (.iri "q")
    | .var "o" => some (.iri "z")
    | _ => none
  have hμ : Solution g patterns μ := by
    constructor
    · intro x
      simp only [patterns, List.mem_cons, List.not_mem_nil, or_false, exists_eq_or_imp, exists_eq_left,
        Pattern.HasUnknown, Term.unknown?, Term.focus, reduceCtorEq, false_or, Option.some.injEq, μ]
      split <;> simp_all [eq_comm]
    · intro p hp
      simp only [patterns, List.mem_cons, List.not_mem_nil, or_false] at hp
      rcases hp with rfl | rfl
      · exact ⟨.iri "x", .iri "y", rfl, rfl, .iri "p", rfl, .inl rfl⟩
      · exact ⟨.iri "x", .iri "z", rfl, rfl, .iri "q", rfl, .inr rfl⟩
  obtain ⟨t, htrim, hkept, hback⟩ := trim_focus_values g { patterns } (by
    intro p hp
    simp only [patterns, List.mem_cons, List.not_mem_nil, or_false] at hp
    rcases hp with rfl | rfl
    · exact ⟨"?a <p> ?b .", rfl⟩
    · exact ⟨"?s ?POF ?o .", rfl⟩)
  refine ⟨t, htrim, ⟨μ, hμ, rfl⟩, fun v => ⟨hkept v, hback ⟨_, hμ.restrict ?_⟩ v⟩⟩
  exact (List.filter_sublist ..).subset

end Scope

end PointOfFocus
