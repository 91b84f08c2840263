import Mathlib.Data.List.Nodup
import PointOfFocus.Proofs.Completion
import PointOfFocus.Proofs.Query.Focus

/-!
# Writing out a path

Writing out a path brings variables of its own into the patterns: one for each hop, and one for each node between two
hops, which is named after the subject and the object of the pattern that the path replaces. Names are not checked
against those in use. Hops are different from each other and so are nodes, but a hop can have the name of a node or of a
variable of the query (`expand_variables`).

The path takes the place of one pattern of the focus. The variable of the focus is gone from the patterns if and only if
there was no other one (`recommendationQuery_without_focus_iff`). The hops are a chain from the subject of this pattern to
its object, and with them all patterns stay connected to the focus (`expand_chain`).
-/

namespace PointOfFocus

open PointOfFocus.Query
open PointOfFocus.Rdf

/-! ### Numbered names -/

/-- The name is the word with any number of digits after it. -/
def IsNumbered (word name : String) : Prop :=
  ∃ digits : String, (∀ c ∈ digits.toList, c.isDigit = true) ∧ name = word ++ digits

/-- The last character of the word is not a digit. -/
def EndsInLetter (word : String) : Prop := (word.toList.getLast?.any (!·.isDigit)) = true

instance (word : String) : Decidable (EndsInLetter word) :=
  inferInstanceAs (Decidable ((word.toList.getLast?.any (!·.isDigit)) = true))

/-- No digits are at the end of the word. -/
private theorem EndsInLetter.eq_nil {word : String} (hword : EndsInLetter word) {front digits : List Char}
    (h : word.toList = front ++ digits) (hdigits : ∀ c ∈ digits, c.isDigit = true) : digits = [] := by
  by_contra hne
  obtain ⟨c, hc, hletter⟩ := (Option.any_eq_true _ _).1 hword
  rw [h, List.getLast?_append_of_ne_nil _ hne] at hc
  rw [hdigits c (List.mem_of_getLast? hc)] at hletter
  cases hletter

/-- If two names with numbers are the same, then the first name is the second one up to digits at its end. -/
private theorem EndsInLetter.isNumbered {word stem : String} (hword : EndsInLetter word) {i j : Nat}
    (h : stem ++ j.repr = word ++ i.repr) : IsNumbered word stem := by
  have hlists := congrArg String.toList h
  rw [String.toList_append, String.toList_append, List.append_eq_append_iff] at hlists
  rcases hlists with ⟨front, hfront, hdigits⟩ | ⟨digits, hdigits, hrest⟩
  · have hnil : front = [] := by
      refine hword.eq_nil hfront fun c hc => isDigit_of_mem_repr (n := j) ?_
      rw [hdigits]
      exact List.mem_append_left _ hc
    rw [hnil, List.append_nil] at hfront
    exact ⟨"", by simp, String.toList_inj.1 (by rw [← hfront]; simp)⟩
  · have hstem : stem = word ++ String.ofList digits := String.toList_inj.1 (by simpa using hdigits)
    refine ⟨String.ofList digits, fun c hc => isDigit_of_mem_repr (n := i) ?_, hstem⟩
    rw [hrest]
    exact List.mem_append_left _ (by simpa using hc)

private theorem EndsInLetter.ne_append_repr {word : String} (hword : EndsInLetter word) (stem : String) (n : Nat) :
    stem ++ n.repr ≠ word := by
  intro h
  have hnil := hword.eq_nil (by rw [← h, String.toList_append]) fun c hc => isDigit_of_mem_repr hc
  simp at hnil

private theorem nodup_numbered (stem : String) (count : Nat) :
    ((List.range count).map fun i => Term.var (stem ++ (i + 1).repr)).Nodup := by
  have hinjective : Function.Injective fun i : Nat => Term.var (stem ++ (i + 1).repr) := by
    intro i j h
    have hlists := congrArg String.toList (Term.var.inj h)
    rw [String.toList_append, String.toList_append, Nat.toList_repr, Nat.toList_repr] at hlists
    have hnumber := congrArg (Nat.ofDigitChars 10 · 0) (List.append_cancel_left hlists)
    simpa using hnumber
  exact List.nodup_range.map hinjective

/-! ### Hops and nodes -/

/-- The variables of the hops of a path. -/
def pathHops (length : Int) : List Term := (countTo length).map .hop

/-- The variables of the nodes between the hops, if the path is written out for the pattern. -/
def pathNodes (length : Int) (p : Pattern) : List Term :=
  (List.range (length - 1).toNat).map fun i => .var (p.subject.name ++ p.object.name ++ (i + 1).repr)

private theorem pathHops_eq (length : Int) :
    pathHops length = (List.range length.toNat).map fun i => .var ("POF" ++ (i + 1).repr) := by
  simp only [pathHops, countTo, List.map_map]
  rfl

private theorem mem_pathHops {length : Int} {x : Term} (h : x ∈ pathHops length) :
    ∃ i : Nat, x = .var ("POF" ++ i.repr) := by
  rw [pathHops_eq] at h
  obtain ⟨i, _, rfl⟩ := List.mem_map.1 h
  exact ⟨i + 1, rfl⟩

private theorem mem_pathNodes {length : Int} {p : Pattern} {x : Term} (h : x ∈ pathNodes length p) :
    ∃ i : Nat, x = .var (p.subject.name ++ p.object.name ++ i.repr) := by
  obtain ⟨i, _, rfl⟩ := List.mem_map.1 h
  exact ⟨i + 1, rfl⟩

/-- The variables of a path have a number at the end, which a letter never is. -/
private theorem not_mem_path {word : String} (hword : EndsInLetter word) (length : Int) (p : Pattern) :
    .var word ∉ pathHops length ++ pathNodes length p := by
  intro h
  rcases List.mem_append.1 h with h | h
  · obtain ⟨i, hi⟩ := mem_pathHops h
    exact hword.ne_append_repr _ i (Term.var.inj hi).symm
  · obtain ⟨i, hi⟩ := mem_pathNodes h
    exact hword.ne_append_repr _ i (Term.var.inj hi).symm

private theorem hop_mem_path {i length : Int} (h₁ : 1 ≤ i) (h₂ : i ≤ length) (p : Pattern) :
    .hop i ∈ pathHops length ++ pathNodes length p :=
  List.mem_append_left _ (List.mem_map.2 ⟨i, Scope.mem_countTo h₁ h₂, rfl⟩)

/-! ### Names of nodes -/

/-- A question mark at the start of a name would be dropped, but the names of subjects and objects have none. -/
private theorem not_mem_name {t : Term} (h : NodeShape t) : '?' ∉ t.name.toList := by
  have hword := Text.isWord_of_mem_marks '?' (by decide)
  have hother : '?' ∉ (String.ofList (t.text.toList.filter Text.isWord)).toList := by
    simp [hword]
  cases t with
  | var x =>
    intro hmem
    have hchar := h.2 '?' hmem
    rw [isVarChar_mark] at hchar
    cases hchar
  | _ => exact hother

/-- The nodes of a chain after its first are variables numbered by their hops. -/
theorem chainNode_succ {stem : String} (h : '?' ∉ stem.toList) (start : Term) (i : Nat) :
    chainNode start stem (i + 1) = .var (stem ++ (i + 1).repr) := by
  rw [chainNode, if_neg (Nat.succ_ne_zero i), Term.named, Term.bareName]
  split
  next cs hcs =>
    have hmark : '?' ∈ (stem ++ (i + 1).repr).toList := by rw [hcs]; exact List.mem_cons_self
    rw [String.toList_append, List.mem_append] at hmark
    rcases hmark with hmark | hmark
    · exact absurd hmark h
    · exact absurd (isDigit_of_mem_repr hmark) (by decide)
  · rfl

/-- The stem of the names on a path has no question mark. -/
theorem not_mem_stem {p : Pattern} (h : PatternShape p) : '?' ∉ (p.subject.name ++ p.object.name).toList := by
  rw [String.toList_append, List.mem_append, not_or]
  exact ⟨not_mem_name h.subject, not_mem_name h.object⟩

private theorem chainNode_mem {p : Pattern} (h : PatternShape p) {length : Int} {i : Nat}
    (hi : i < (length - 1).toNat) :
    chainNode p.subject (p.subject.name ++ p.object.name) (i + 1) ∈ pathNodes length p := by
  rw [chainNode_succ (not_mem_stem h)]
  exact List.mem_map.2 ⟨i, List.mem_range.2 hi, rfl⟩

/-! ### Terms after a path was written out -/

namespace Scope

private theorem expand_of_find? {s : Scope} {p : Pattern} (hlength : s.pathLength ≠ 0)
    (hp : s.patterns.find? (·.predicate.isFocus) = some p) : ∃ before after, s.patterns = before ++ p :: after ∧
      s.expand.patterns = before ++ lastHop s.pathLength p :: after ++ firstHops s.pathLength p ∧
      s.expand.projection = pathProjection s.pathLength := by
  rcases expand_cases s with ⟨_, hzero | hnone⟩ | ⟨before, q, after, _, hsplit, hbefore, hq, heq⟩
  · exact absurd hzero hlength
  · have hfalse := hnone p (List.mem_of_find?_eq_some hp)
    have htrue := List.find?_some hp
    rw [hfalse] at htrue
    cases htrue
  · have hnone : before.find? (·.predicate.isFocus) = none := List.find?_eq_none.2 fun r hr => by simp [hbefore r hr]
    rw [hsplit, List.find?_append, hnone, Option.none_or, List.find?_cons, hq] at hp
    cases hp
    exact ⟨before, after, hsplit, by rw [heq], by rw [heq]⟩

/-- If the patterns of the focus were kept and there is one of them, there is a first one among those that were kept. -/
private theorem exists_first {ps kept : List Pattern} (hsublist : kept.Sublist ps)
    (hkept : kept.filter (·.predicate.isFocus) = ps.filter (·.predicate.isFocus))
    (hfocus : ∃ q ∈ ps, q.predicate.isFocus = true) : ∃ p ∈ ps, kept.find? (·.predicate.isFocus) = some p := by
  obtain ⟨q, hq, hfocus⟩ := hfocus
  have hmem : q ∈ ps.filter (·.predicate.isFocus) := List.mem_filter.2 ⟨hq, hfocus⟩
  rw [← hkept] at hmem
  obtain ⟨p, hp⟩ : ∃ p, kept.find? (·.predicate.isFocus) = some p :=
    Option.isSome_iff_exists.1 (List.find?_isSome.2 ⟨q, (List.mem_filter.1 hmem).1, hfocus⟩)
  exact ⟨p, hsublist.subset (List.mem_of_find?_eq_some hp), hp⟩

/-- A term is a variable of the path, or it was in the same place of some pattern before. -/
private theorem term_expand {s : Scope} {p : Pattern} (hlength : 1 ≤ s.pathLength)
    (hp : s.patterns.find? (·.predicate.isFocus) = some p) (hshape : PatternShape p) {q : Pattern}
    (hq : q ∈ s.expand.patterns) (role : Role) :
    q.term role ∈ pathHops s.pathLength ++ pathNodes s.pathLength p ∨ ∃ r ∈ s.patterns, r.term role = q.term role := by
  obtain ⟨before, after, hsplit, hexpand, _⟩ := expand_of_find? (by omega) hp
  have hold : p ∈ s.patterns := List.mem_of_find?_eq_some hp
  have hnode : ∀ i ≤ (s.pathLength - 1).toNat, chainNode p.subject (p.subject.name ++ p.object.name) i = p.subject ∨
      chainNode p.subject (p.subject.name ++ p.object.name) i ∈ pathHops s.pathLength ++ pathNodes s.pathLength p := by
    intro i hi
    cases i with
    | zero => exact .inl rfl
    | succ i => exact .inr (List.mem_append_right _ (chainNode_mem hshape hi))
  rw [hexpand] at hq
  simp only [List.append_assoc, List.mem_append, List.mem_cons] at hq
  rcases hq with hq | (rfl | hq) | hq
  · exact .inr ⟨q, by simp [hsplit, hq], rfl⟩
  · -- the pattern at the end of the chain keeps its object
    cases role with
    | subject =>
      rcases hnode _ le_rfl with hsame | hpath
      · exact .inr ⟨p, hold, hsame.symm⟩
      · exact .inl hpath
    | predicate => exact .inl (hop_mem_path hlength (Int.le_refl _) p)
    | object => exact .inr ⟨p, hold, rfl⟩
  · exact .inr ⟨q, by simp [hsplit, hq], rfl⟩
  · -- a pattern of the chain: only the first one keeps a term, its subject
    obtain ⟨i, hi, rfl⟩ := List.mem_map.1 hq
    have hlt := List.mem_range.1 hi
    cases role with
    | subject =>
      rcases hnode i (by omega) with hsame | hpath
      · exact .inr ⟨p, hold, hsame.symm⟩
      · exact .inl hpath
    | predicate => exact .inl (hop_mem_path (by omega) (by omega) p)
    | object => exact .inl (List.mem_append_right _ (chainNode_mem hshape hlt))

private theorem occurs_of_mem_path {s : Scope} {p : Pattern} (hlength : 1 ≤ s.pathLength)
    (hp : s.patterns.find? (·.predicate.isFocus) = some p) (hshape : PatternShape p) {x : Term}
    (hx : x ∈ pathHops s.pathLength ++ pathNodes s.pathLength p) : Occurs x s.expand.patterns := by
  obtain ⟨before, after, _, hexpand, _⟩ := expand_of_find? (by omega) hp
  have hfirst : ∀ i < (s.pathLength - 1).toNat, ∃ q ∈ s.expand.patterns, q.predicate = .hop (i + 1) ∧
      q.object = .var (p.subject.name ++ p.object.name ++ (i + 1).repr) := by
    intro i hi
    have hobject := chainNode_succ (not_mem_stem hshape) p.subject i
    rw [hexpand]
    exact ⟨_, List.mem_append_right _ (List.mem_map.2 ⟨i, List.mem_range.2 hi, rfl⟩), rfl, hobject⟩
  rcases List.mem_append.1 hx with hx | hx
  · -- the last hop stands in the pattern that was replaced, the others in the chain behind it
    obtain ⟨i, hi, rfl⟩ := List.mem_map.1 hx
    obtain ⟨k, hk, rfl⟩ := List.mem_map.1 hi
    have hlt := List.mem_range.1 hk
    by_cases hlast : k < (s.pathLength - 1).toNat
    · obtain ⟨q, hq, hpredicate, _⟩ := hfirst k hlast
      exact ⟨q, hq, .predicate, hpredicate⟩
    · have heq : s.pathLength = Int.ofNat (k + 1) := by
        show s.pathLength = ((k + 1 : Nat) : Int)
        omega
      refine ⟨lastHop s.pathLength p, by rw [hexpand]; simp, .predicate, ?_⟩
      show Term.hop s.pathLength = _
      rw [heq]
  · obtain ⟨i, hi, rfl⟩ := List.mem_map.1 hx
    obtain ⟨q, hq, _, hobject⟩ := hfirst i (List.mem_range.1 hi)
    exact ⟨q, hq, .object, hobject⟩

/-! ### Names of the variables -/

/-- What is known of the variables of the path that is written out for the pattern. -/
structure PathVariables (text : List Char) (s : Scope) (p : Pattern) : Prop where
  /-- The path brings its hops and nodes into the patterns. -/
  occurs : ∀ x ∈ pathHops s.pathLength ++ pathNodes s.pathLength p, Occurs x s.expand.patterns
  /-- It brings in nothing else. -/
  only : ∀ x, Occurs x s.expand.patterns →
    Occurs x s.patterns ∨ x ∈ pathHops s.pathLength ++ pathNodes s.pathLength p
  /-- The hops are different from each other. -/
  hops : (pathHops s.pathLength).Nodup
  /-- The nodes are different from each other. -/
  nodes : (pathNodes s.pathLength p).Nodup
  /-- A hop is a node only if the names of the ends together are the name of the focus up to digits. -/
  apart : ∀ x ∈ pathHops s.pathLength, x ∈ pathNodes s.pathLength p →
    IsNumbered "POF" (p.subject.name ++ p.object.name)
  /-- A hop was there before only if it is a variable of the text. -/
  freshHop : ∀ x, .var x ∈ pathHops s.pathLength → Occurs (.var x) s.patterns → x ∈ writtenVariables text
  /-- A node was there before only if it is a variable of the text or has the name of one that is made up. -/
  freshNode : ∀ x, .var x ∈ pathNodes s.pathLength p → Occurs (.var x) s.patterns →
    x ∈ writtenVariables text ∨ IsNumbered "_anon" (p.subject.name ++ p.object.name)

/-- A variable of the path that was there before is one of the text or one that is made up. -/
private theorem written_of_mem_path {text : List Char} {s : Scope} (h : parse text = .ok s) {length : Int} {p : Pattern}
    {x : String} (hx : .var x ∈ pathHops length ++ pathNodes length p) (hoccurs : Occurs (.var x) s.patterns) :
    x ∈ writtenVariables text ∨ ∃ n : Nat, x = "_anon" ++ n.repr := by
  rcases parse_variables h hoccurs with hwritten | rfl | rfl | hmadeUp
  · exact .inl hwritten
  · exact absurd hx (not_mem_path (by decide) _ _)
  · exact absurd hx (not_mem_path (by decide) _ _)
  · exact .inr hmadeUp

/-- A text in which a path is sought can be trimmed, and then there is a pattern for which the path is written out. -/
theorem expand_variables {text : List Char} {s : Scope} (h : parse text = .ok s) (hlength : 1 ≤ s.pathLength) :
    ∃ trimmed p, s.trim = .ok trimmed ∧ trimmed.pathLength = s.pathLength ∧
      trimmed.patterns.find? (·.predicate.isFocus) = some p ∧ PathVariables text trimmed p := by
  have hscope := parse_shaped h
  obtain ⟨kept, htrim, hsublist, _, hkept⟩ := trim_kept fun p hp => (hscope.patterns p hp).writable
  obtain ⟨p, hmem, hp⟩ := exists_first hsublist hkept (exists_focus_predicate h (by omega))
  refine ⟨_, p, htrim, rfl, hp, ?_⟩
  have hshape : PatternShape p := hscope.patterns p hmem
  have hbefore : ∀ x, Occurs x kept → Occurs x s.patterns := by
    rintro x ⟨q, hq, hrole⟩
    exact ⟨q, hsublist.subset hq, hrole⟩
  have hpath : ∀ x ∈ pathHops s.pathLength ++ pathNodes s.pathLength p, Occurs x (s.keeping kept).expand.patterns :=
    fun x hx => occurs_of_mem_path (s := s.keeping kept) hlength hp hshape hx
  refine ⟨hpath, ?_, ?_, nodup_numbered _ _, ?_, ?_, ?_⟩
  · rintro x ⟨q, hq, role, rfl⟩
    rcases term_expand (s := s.keeping kept) hlength hp hshape hq role with hpath | ⟨r, hr, hsame⟩
    · exact .inr hpath
    · exact .inl ⟨r, hr, role, hsame⟩
  · rw [pathHops_eq]
    exact nodup_numbered _ _
  · -- a node that is a hop as well has the word of the hops with digits behind it for its stem
    intro x hhop hnode
    obtain ⟨i, rfl⟩ := mem_pathHops hhop
    obtain ⟨j, hj⟩ := mem_pathNodes hnode
    exact EndsInLetter.isNumbered (by decide) (Term.var.inj hj).symm
  · intro x hhop hoccurs
    rcases written_of_mem_path h (p := p) (List.mem_append_left _ hhop) (hbefore _ hoccurs) with hwritten | ⟨n, rfl⟩
    · exact hwritten
    · obtain ⟨i, hi⟩ := mem_pathHops hhop
      have hhead := congrArg (·.toList.head?) (Term.var.inj hi)
      simp at hhead
  · intro x hnode hoccurs
    rcases written_of_mem_path h (List.mem_append_right _ hnode) (hbefore _ hoccurs) with hwritten | ⟨n, rfl⟩
    · exact .inl hwritten
    · obtain ⟨j, hj⟩ := mem_pathNodes hnode
      exact .inr (EndsInLetter.isNumbered (by decide) (Term.var.inj hj).symm)

/-- The path goes over two hops, and the node between them is not in the patterns yet. -/
theorem expand_variables_two_hops : ∃ s trimmed p, parse "SELECT * \x7b ?s 2/< ?o . ?o a ?so \x7d".toList = .ok s ∧
    s.trim = .ok trimmed ∧ trimmed.patterns.find? (·.predicate.isFocus) = some p ∧
    PathVariables "SELECT * \x7b ?s 2/< ?o . ?o a ?so \x7d".toList trimmed p := by
  have hread : ((parse "SELECT * \x7b ?s 2/< ?o . ?o a ?so \x7d".toList).toOption.map fun s =>
      s.pathLength) = some 2 := by decide +kernel
  obtain ⟨s, hparse, hlength⟩ := exists_ok_of_map hread
  obtain ⟨trimmed, p, htrim, _, hp, hvariables⟩ := expand_variables hparse (by omega)
  exact ⟨s, trimmed, p, hparse, htrim, hp, hvariables⟩

/-- A variable of the query can have the name of a node of the path. -/
theorem expand_variables_captured : ¬ ∀ (text : List Char) (s trimmed : Scope) (p : Pattern), parse text = .ok s →
    1 ≤ s.pathLength → s.trim = .ok trimmed → trimmed.patterns.find? (·.predicate.isFocus) = some p →
    (pathHops s.pathLength ++ pathNodes s.pathLength p).Nodup ∧
      ∀ x ∈ pathHops s.pathLength ++ pathNodes s.pathLength p, ¬Occurs x trimmed.patterns := by
  intro hall
  have hread : ((parse "SELECT * \x7b ?s 2/< ?o . ?o <p> ?so1 \x7d".toList).toOption.map fun s =>
      (s.pathLength, s.trim.toOption.map fun t =>
        (t.patterns.any fun p => isVarNamed "so1" p.object,
          (t.patterns.find? (·.predicate.isFocus)).map fun p => p.subject.name ++ p.object.name))) =
      some (2, some (true, some "so")) := by decide +kernel
  obtain ⟨s, hparse, hs⟩ := exists_ok_of_map hread
  obtain ⟨hlength, hs⟩ := Prod.mk.inj hs
  obtain ⟨trimmed, htrim, ht⟩ := exists_ok_of_map hs
  obtain ⟨hany, hfirst⟩ := Prod.mk.inj ht
  obtain ⟨q, hq, hobject⟩ := List.any_eq_true.1 hany
  obtain ⟨p, hp, hstem⟩ := Option.map_eq_some_iff.1 hfirst
  have hnode : .var "so1" ∈ pathNodes s.pathLength p := by
    rw [hlength, pathNodes, hstem]
    exact List.mem_map.2 ⟨0, by decide, rfl⟩
  have hnone := (hall _ s trimmed p hparse (by omega) htrim hp).2 _ (List.mem_append_right _ hnode)
  exact hnone ⟨q, hq, .object, isVarNamed_iff.1 hobject⟩

/-! ### The variable of the focus -/

namespace Prepared

variable {s after : Scope} {kept : List Pattern}

private theorem term (h : Prepared s kept after) (hlength : 1 ≤ s.pathLength) {p : Pattern}
    (hp : kept.find? (·.predicate.isFocus) = some p) (hshape : PatternShape p) {q : Pattern} (hq : q ∈ after.patterns)
    (role : Role) :
    q.term role ∈ pathHops s.pathLength ++ pathNodes s.pathLength p ∨ ∃ r ∈ s.patterns, r.term role = q.term role := by
  obtain ⟨subjects, rfl⟩ := h.expanded
  obtain ⟨u, hu, rfl⟩ := List.mem_map.1 hq
  have hterm : (marked subjects u).term role = u.term role := by cases role <;> rfl
  rw [hterm]
  rcases term_expand (s := s.keeping kept) hlength hp hshape hu role with hpath | ⟨r, hr, hsame⟩
  · exact .inl hpath
  · exact .inr ⟨r, h.sublist.subset hr, hsame⟩

private theorem projection (h : Prepared s kept after) (hlength : s.pathLength ≠ 0) {p : Pattern}
    (hp : kept.find? (·.predicate.isFocus) = some p) : after.projection = pathProjection s.pathLength := by
  obtain ⟨subjects, rfl⟩ := h.expanded
  obtain ⟨_, _, _, _, hprojection⟩ := expand_of_find? (s := s.keeping kept) hlength hp
  exact hprojection

end Prepared

/-- After the recommendation query for a path was asked for, the variable of the focus is gone from the patterns if and
only if it was the predicate of one pattern. -/
theorem recommendationQuery_without_focus_iff {text : List Char} {s : Scope} (h : parse text = .ok s)
    (hwritten : "POF" ∉ writtenVariables text) {m : Marker} (hmarker : markerOf text = some m) {n : Nat}
    (hkind : m.token.kind = .focus (.pathLength n)) :
    ∃ query after, s.recommendationQuery .recommendation [] = (.ok query, after) ∧
      after.projection = pathProjection n ∧
      (¬Occurs .focus after.patterns ↔ s.patterns.countP (·.predicate.isFocus) = 1) := by
  have haccounts := parse_focus h hwritten
  obtain ⟨hhinted, _⟩ := parse_hinted h
  rw [hmarker] at haccounts hhinted
  have hrole := haccounts.inRole
  obtain ⟨length, hsame, hlength, hpos, hpredicate⟩ | ⟨hother, _⟩ := hhinted.pathLength
  case inr => exact absurd hkind (hother n)
  cases hkind.symm.trans hsame
  rw [hpredicate] at hrole
  obtain ⟨kept, after, written, hafter, _, hquery⟩ := recommendationQuery_of_parse h
  have hfocus := exists_focus_predicate h (by omega)
  obtain ⟨p, hmem, hp⟩ := exists_first hafter.sublist hafter.focus hfocus
  have hcount : 0 < s.patterns.countP (·.predicate.isFocus) := List.countP_pos_iff.2 hfocus
  have hgone := hafter.focusCount_eq (by omega)
  simp only [focusCount] at hgone
  refine ⟨_, after, hquery, hlength ▸ hafter.projection (by omega) hp, fun hnone => ?_, fun hone => ?_⟩
  · have hzero : after.patterns.countP (·.predicate.isFocus) = 0 := by
      refine List.countP_eq_zero.2 fun r hr hfocus => hnone ?_
      exact ⟨r, hr, .predicate, isFocus_iff.1 hfocus⟩
    omega
  · rintro ⟨r, hr, role, hterm⟩
    -- the variable of the focus is no variable of the path, so it is still where the marker was read
    have hold : role = .predicate := by
      rcases hafter.term (by omega) hp ((parse_shaped h).patterns p hmem) hr role with hpath | ⟨t, ht, hsame⟩
      · rw [hterm] at hpath
        exact absurd hpath (not_mem_path (by decide) _ _)
      · exact hrole.role_eq ht (hsame.trans hterm)
    have hzero : after.patterns.countP (·.predicate.isFocus) = 0 := by omega
    rw [hold] at hterm
    exact List.countP_eq_zero.1 hzero r hr (isFocus_iff.2 hterm)

/-- A path of one predicate is sought, and the point of focus has two objects: it stays the predicate of the second. -/
theorem recommendationQuery_keeps_focus : ∃ s query after, parse "SELECT * \x7b ?s 1/< ?a , ?b \x7d".toList = .ok s ∧
    s.recommendationQuery .recommendation [] = (.ok query, after) ∧ after.projection = pathProjection 1 ∧
    Occurs .focus after.patterns := by
  have hread : ((parse "SELECT * \x7b ?s 1/< ?a , ?b \x7d".toList).toOption.map fun s =>
      s.patterns.countP (·.predicate.isFocus)) = some 2 := by decide +kernel
  have hmarker : markerOf "SELECT * \x7b ?s 1/< ?a , ?b \x7d".toList =
      some ⟨⟨.focus (.pathLength 1), "<", 14, 17⟩, .predicate⟩ := by decide +kernel
  obtain ⟨s, hparse, hcount⟩ := exists_ok_of_map hread
  obtain ⟨query, after, hquery, hprojection, hiff⟩ :=
    recommendationQuery_without_focus_iff hparse (by decide +kernel) hmarker rfl
  refine ⟨s, query, after, hparse, hquery, hprojection, ?_⟩
  by_contra hnone
  have hone := hiff.1 hnone
  omega

/-! ### The chain -/

/-- The path is written out at the first pattern of the focus. -/
theorem expand_eq {s : Scope} {before after : List Pattern} {p : Pattern} {n : Nat} (hlength : s.pathLength = n + 1)
    (hsplit : s.patterns = before ++ p :: after) (hbefore : ∀ q ∈ before, q.predicate ≠ .focus)
    (hp : p.predicate = .focus) : s.expand = { s with
      patterns := before ++ lastHop (n + 1) p :: after ++ firstHops (n + 1) p
      projection := pathProjection (n + 1) } := by
  have hskip : ∀ q ∈ before, (!q.predicate.isFocus) = true := by
    intro q hq
    simpa using mt isFocus_iff.1 (hbefore q hq)
  have hfocus : p.predicate.isFocus = true := isFocus_iff.2 hp
  have hne : s.pathLength ≠ 0 := by omega
  rw [expand, if_neg hne, hsplit, List.dropWhile_append_of_pos hskip, List.takeWhile_append_of_pos hskip]
  simp only [List.dropWhile_cons, List.takeWhile_cons, hfocus, Bool.not_true, Bool.false_eq_true, ↓reduceIte,
    List.append_nil, hlength]
  rfl

/-- All patterns of a scope that was trimmed are connected to the focus, also after the path was written out. -/
private theorem trim_expand {s : Scope} (hw : ∀ p ∈ s.patterns, p.Writable) (hlength : 0 ≤ s.pathLength)
    (hprojection : s.projection = defaultProjection) :
    ∃ trimmed, s.trim = .ok trimmed ∧ trimmed.expand.trim = .ok trimmed.expand := by
  obtain ⟨kept, htrim, hsublist, hconnected, -⟩ := trim_kept hw
  have hkept : ∀ p ∈ kept, p.Writable := fun p hp => hw p (hsublist.subset hp)
  have hwritable := expand_writable (s := s.keeping kept) hkept
  have hc := connected_expand (s := s.keeping kept) hkept hlength hprojection hconnected
  exact ⟨_, htrim, trim_of_connected (fun p hp => (hwritable p hp).exists_keys) hc⟩

/-- The projection of a prepared scope that comes of reading a text is that of a path if a path is sought. -/
theorem projection_prepare {text : List Char} {s : Scope} (h : parse text = .ok s) :
    s.prepare.2.pathLength = s.pathLength ∧
      s.prepare.2.projection = if s.pathLength = 0 then defaultProjection else pathProjection s.pathLength := by
  obtain ⟨kept, after, _, hafter, _, _⟩ := recommendationQuery_of_parse h
  rw [hafter.prepare]
  refine ⟨hafter.pathLength, ?_⟩
  split
  next hzero =>
    obtain ⟨subjects, rfl⟩ := hafter.expanded
    have hsame : (s.keeping kept).expand = s.keeping kept := by
      rw [expand, if_pos (by exact hzero)]
    rw [hsame]
    exact (parse_shaped h).projection
  next hlength =>
    obtain ⟨p, _, hp⟩ := exists_first hafter.sublist hafter.focus (exists_focus_predicate h hlength)
    exact hafter.projection hlength hp

/-- A path of `n + 1` hops is written out at the first pattern of the focus: the last hop stands in the place of the
pattern, the others come after all patterns, and all else stays as it is. If the scope was trimmed before, trimming it
again removes nothing. And in the scope of a text that was read, the projection is another than that of the focus, once
the recommendation query was asked for, if and only if a path is sought. -/
theorem expand_chain :
    (∀ (s : Scope) (n : Nat) (before after : List Pattern) (p : Pattern), s.pathLength = n + 1 →
      s.patterns = before ++ p :: after → (∀ q ∈ before, q.predicate ≠ .focus) → p.predicate = .focus →
      ∃ node : Nat → Term, node 0 = p.subject ∧
        (∀ i, node (i + 1) = .named (p.subject.name ++ p.object.name ++ (i + 1).repr)) ∧
        s.expand = { s with
          patterns := before ++ { p with subject := node n, predicate := .hop (n + 1) } :: after ++
            (List.range n).map fun i =>
              { subject := node i, predicate := .hop (i + 1), object := node (i + 1) }
          projection := pathProjection (n + 1) }) ∧
    (∀ s : Scope, s.projection = defaultProjection → 0 ≤ s.pathLength → (∀ p ∈ s.patterns, p.Writable) →
      ∃ trimmed, s.trim = .ok trimmed ∧ trimmed.expand.trim = .ok trimmed.expand) ∧
    (∀ (text : List Char) (s : Scope) (template : Template) (context : List (String × Data.Value)),
      parse text = .ok s →
      let after := (s.recommendationQuery template context).2
      after.pathLength = s.pathLength ∧ (0 < after.pathLength ↔ after.projection ≠ defaultProjection)) := by
  refine ⟨fun s n before after p hlength hsplit hbefore hp => ?_, fun s hprojection hlength hw => ?_,
    fun text s template context hparse => ?_⟩
  · refine ⟨chainNode p.subject (p.subject.name ++ p.object.name), rfl, fun _ => rfl, ?_⟩
    have hcount : ((n : Int) + 1 - 1).toNat = n := by omega
    simpa only [lastHop, firstHops, chainPatterns, hcount] using expand_eq hlength hsplit hbefore hp
  · exact trim_expand hw hlength hprojection
  · obtain ⟨hlength, hprojection⟩ := projection_prepare hparse
    have hpos : 0 ≤ s.pathLength := (parse_shaped hparse).pathLength
    simp only [recommendationQuery_scope, hlength, hprojection, true_and]
    by_cases hzero : s.pathLength = 0
    · simp [hzero]
    · rw [if_neg hzero]
      exact ⟨fun _ => pathProjection_ne _, fun _ => by omega⟩

/-- The path `2/<` from `?s` to `?o` goes over `?so1`. The pattern `?o a ?c` stays where it is and is not removed. -/
theorem expand_chain_two_hops :
    let first : Pattern := { subject := .var "o", predicate := .type, object := .var "c" }
    let s : Scope :=
      { patterns := [first, { subject := .var "s", predicate := .focus, object := .var "o" }], pathLength := 2 }
    s.expand.patterns = [first, { subject := .var "so1", predicate := .hop 2, object := .var "o" },
        { subject := .var "s", predicate := .hop 1, object := .var "so1" }] ∧
      (∃ trimmed, s.trim = .ok trimmed ∧ trimmed.expand.trim = .ok trimmed.expand) ∧
      ∃ read, parse "SELECT * \x7b ?o a ?c . ?s 2/< ?o \x7d".toList = .ok read ∧
        (read.recommendationQuery .recommendation []).2.projection ≠ defaultProjection := by
  intro first s
  obtain ⟨hchain, htrim, hprojection⟩ := expand_chain
  refine ⟨?_, htrim s rfl (by decide) ?_, ?_⟩
  · obtain ⟨node, hstart, hnode, hexpand⟩ := hchain s 1 [first] []
      { subject := .var "s", predicate := .focus, object := .var "o" } rfl rfl (by simp [first, Term.type, Term.focus]) rfl
    have hone : node 1 = .var "so1" := (hnode 0).trans rfl
    rw [hexpand]
    simp [hstart, hone]
  · intro p hp
    simp only [s, first, List.mem_cons, List.not_mem_nil, or_false] at hp
    rcases hp with rfl | rfl
    · exact ⟨⟨_, rfl⟩, ⟨_, rfl⟩, ⟨_, rfl⟩⟩
    · exact ⟨⟨_, rfl⟩, ⟨_, rfl⟩, ⟨_, rfl⟩⟩
  · have hread : ((parse "SELECT * \x7b ?o a ?c . ?s 2/< ?o \x7d".toList).toOption.map fun s =>
        s.pathLength) = some 2 := by decide +kernel
    obtain ⟨read, hparse, hlength⟩ := exists_ok_of_map hread
    obtain ⟨hsame, hiff⟩ := hprojection _ read .recommendation [] hparse
    exact ⟨read, hparse, hiff.1 (by omega)⟩

end Scope

end PointOfFocus
