import Mathlib.Data.List.Find
import PointOfFocus.Proofs.PathExpansion
import PointOfFocus.Proofs.Query.Keys

/-!
# The point of focus of a prepared scope

Trimming, writing out a path and marking the leaves do not change what kind of term is recommended
(`recommendation_prepare`): the patterns with the point of focus are kept in their order, and a path is only written out
where a path is recommended anyway.

The subject that a template is shown is looked for again after these passes, as that of the first pattern that the point
of focus or a hop stands in. It is the subject that the point of focus hung off when the query was read if the path has at
most one hop. The last hop of a longer path stands in the place of the point of focus and hangs off a node between two
hops, so that this node is shown (`recommendationQuery_subject`).
-/

namespace PointOfFocus

open PointOfFocus.Number (integerText)
open PointOfFocus.Query
open PointOfFocus.Rdf

/-! ### Lists that are searched for the first of their items -/

private theorem findSome?_filter_of_imp {α β : Type} {f : α → Option β} {keep : α → Bool} {l : List α}
    (h : ∀ a ∈ l, (f a).isSome = true → keep a = true) : (l.filter keep).findSome? f = l.findSome? f := by
  induction l with
  | nil => rfl
  | cons a l ih =>
    obtain ⟨ha, hl⟩ := List.forall_mem_cons.1 h
    cases hkeep : keep a with
    | true => rw [List.filter_cons_of_pos hkeep, List.findSome?_cons, List.findSome?_cons, ih hl]
    | false =>
      have hnone : f a = none := by
        rw [← Option.not_isSome_iff_eq_none]
        intro hsome
        rw [ha hsome] at hkeep
        cases hkeep
      rw [List.filter_cons_of_neg (by simp [hkeep]), List.findSome?_cons, hnone, ih hl]

private theorem find?_filter_of_imp {α : Type} {test keep : α → Bool} {l : List α}
    (h : ∀ a ∈ l, test a = true → keep a = true) : (l.filter keep).find? test = l.find? test := by
  rw [List.find?_filter]
  refine List.find?_congr fun a ha => ?_
  cases htest : test a with
  | true => simp [h a ha htest]
  | false => simp

private theorem find?_of_imp {α : Type} {test strong : α → Bool} (h : ∀ a, strong a = true → test a = true) {l : List α}
    {a : α} (ha : l.find? test = some a) (hstrong : strong a = true) : l.find? strong = some a := by
  obtain ⟨-, before, after, rfl, hbefore⟩ := List.find?_eq_some_iff_append.1 ha
  refine List.find?_eq_some_iff_append.2 ⟨hstrong, before, after, rfl, fun b hb => ?_⟩
  have hfails := hbefore b hb
  cases hb' : strong b with
  | true => simp [h b hb'] at hfails
  | false => rfl

/-! ### The kind of recommendation -/

/-- Whether the point of focus stands in the pattern. -/
def Pattern.hasFocus (p : Pattern) : Bool := p.subject.isFocus || p.predicate.isFocus || p.object.isFocus

private theorem Pattern.or_terms_iff (f : Term → Bool) (p : Pattern) :
    (f p.subject || f p.predicate || f p.object) = true ↔ ∃ role, f (p.term role) = true := by
  rw [Bool.or_eq_true, Bool.or_eq_true]
  constructor
  · rintro ((hsubject | hpredicate) | hobject)
    exacts [⟨.subject, hsubject⟩, ⟨.predicate, hpredicate⟩, ⟨.object, hobject⟩]
  · rintro ⟨_ | _ | _, h⟩
    exacts [.inl (.inl h), .inl (.inr h), .inr h]

private theorem Pattern.hasFocus_iff {p : Pattern} : p.hasFocus = true ↔ ∃ role, (p.term role).isFocus = true :=
  p.or_terms_iff Term.isFocus

private theorem Pattern.hasFocus_of_recommendation? {p : Pattern} (h : p.recommendation?.isSome = true) :
    p.hasFocus = true := by
  unfold Pattern.recommendation? at h
  rw [Pattern.hasFocus, Bool.or_eq_true, Bool.or_eq_true]
  split at h
  next hpredicate => exact .inl (.inr hpredicate)
  next =>
    split at h
    next hclass => exact .inr (Bool.and_eq_true_iff.1 hclass).2
    next =>
      split at h
      next hobject => exact .inr hobject
      next =>
        split at h
        next hsubject => exact .inl (.inl hsubject)
        next => cases h

private theorem Pattern.Writable.hasKey_focus {p : Pattern} (h : p.Writable) (hfocus : p.hasFocus = true) :
    p.HasKey "?POF" := by
  rw [Pattern.hasFocus, Bool.or_eq_true, Bool.or_eq_true] at hfocus
  rcases hfocus with (hsubject | hpredicate) | hobject
  · exact h.hasKey_subject (Scope.isFocus_key hsubject)
  · exact h.hasKey_predicate (Scope.isFocus_key hpredicate)
  · exact h.hasKey_object (Scope.isFocus_key hobject)

namespace Scope

open scoped Classical in
/-- The three passes over the patterns of a scope, one after the other. -/
private theorem passes_eq {s : Scope} (hw : ∀ p ∈ s.patterns, p.Writable) :
    ∃ kept subjects, s.trim = .ok (s.keeping kept) ∧
    kept = s.patterns.filter (fun p => Connected s.patterns s.focusKeys p) ∧ (s.keeping kept).expand.markLeaves =
      (.ok (), (s.keeping kept).expand.keeping ((s.keeping kept).expand.patterns.map (marked subjects))) := by
  have hkept : ∀ p ∈ (s.keeping (s.patterns.filter fun p => Connected s.patterns s.focusKeys p)).patterns, p.Writable :=
    fun p hp => hw p (List.mem_filter.1 hp).1
  obtain ⟨subjects, hmark, -⟩ := markLeaves_eq (expand_writable hkept)
  exact ⟨_, subjects, trim_eq fun p hp => (hw p hp).exists_keys, rfl, hmark⟩

private theorem connected_of_hasFocus {s : Scope} (hw : ∀ p ∈ s.patterns, p.Writable) {p : Pattern}
    (hp : p ∈ s.patterns) (hfocus : p.hasFocus = true) : Connected s.patterns s.focusKeys p :=
  .start hp (focus_mem_focusKeys s) ((hw p hp).hasKey_focus hfocus)

private theorem recommendation_congr {s t : Scope} (hlength : t.pathLength = s.pathLength) (hkind : s.pathLength = 0 →
    t.patterns.findSome? Pattern.recommendation? = s.patterns.findSome? Pattern.recommendation?) :
    t.recommendation = s.recommendation := by
  unfold recommendation
  by_cases hzero : s.pathLength = 0
  · rw [hlength, hkind hzero]
  · rw [hlength, if_pos hzero, if_pos hzero]

/-- The passes that prepare a scope, one after the other, do not change what kind of term is recommended, whatever the
length of the path and the projection are. -/
theorem recommendation_prepare (s : Scope) (h : ∀ p ∈ s.patterns, p.Writable) :
    ∃ trimmed after, s.trim = .ok trimmed ∧ trimmed.expand.markLeaves = (.ok (), after) ∧
      after.recommendation = s.recommendation := by
  classical
  obtain ⟨kept, subjects, htrim, hkept, hmark⟩ := passes_eq h
  refine ⟨_, _, htrim, hmark, recommendation_congr (expand_pathLength _) fun hzero => ?_⟩
  have hsame : (s.keeping kept).expand = s.keeping kept := by
    rw [expand, if_pos (by exact hzero)]
  have hmarked (p : Pattern) : (marked subjects p).recommendation? = p.recommendation? := rfl
  have hfilter : kept.findSome? Pattern.recommendation? = s.patterns.findSome? Pattern.recommendation? := by
    rw [hkept]
    refine findSome?_filter_of_imp fun p hp hsome => decide_eq_true ?_
    exact connected_of_hasFocus h hp (Pattern.hasFocus_of_recommendation? hsome)
  rw [keeping_patterns, hsame, keeping_patterns, List.findSome?_map, ← hfilter]
  rfl

/-- A class is sought, and the pattern of another variable is trimmed. -/
theorem recommendation_prepare_class :
    let s : Scope := { patterns := [
      { subject := .var "x", predicate := .iri "p", object := .var "y" },
      { subject := .var "s", predicate := .type, object := .focus }] }
    (∀ p ∈ s.patterns, p.Writable) ∧ ∃ trimmed after, s.trim = .ok trimmed ∧
      trimmed.expand.markLeaves = (.ok (), after) ∧ after.recommendation = s.recommendation ∧ s.recommendation = .cls := by
  intro s
  have hwritable : ∀ p ∈ s.patterns, p.Writable := by
    intro p hp
    simp only [s, List.mem_cons, List.not_mem_nil, or_false] at hp
    rcases hp with rfl | rfl
    · exact ⟨⟨_, rfl⟩, ⟨_, rfl⟩, ⟨_, rfl⟩⟩
    · exact ⟨⟨_, rfl⟩, ⟨_, rfl⟩, ⟨_, rfl⟩⟩
  obtain ⟨trimmed, after, htrim, hmark, hsame⟩ := recommendation_prepare s hwritable
  exact ⟨hwritable, trimmed, after, htrim, hmark, hsame, rfl⟩

end Scope

/-! ### The subject of the point of focus -/

/-- Whether the term is the point of focus or a hop of a path of the given length. -/
def Rdf.Term.isOnPath (length : Int) (t : Term) : Bool :=
  t.isFocus || (countTo length).any fun i => isVarNamed ("POF" ++ integerText i) t

/-- Whether the point of focus or a hop of a path of the given length stands in the pattern. -/
def Pattern.isOnPath (length : Int) (p : Pattern) : Bool :=
  p.subject.isOnPath length || p.predicate.isOnPath length || p.object.isOnPath length

private theorem Pattern.isOnPath_iff {length : Int} {p : Pattern} :
    p.isOnPath length = true ↔ ∃ role, (p.term role).isOnPath length = true :=
  p.or_terms_iff (·.isOnPath length)

private theorem Pattern.isOnPath_of_hasFocus {length : Int} {p : Pattern} (h : p.hasFocus = true) :
    p.isOnPath length = true := by
  obtain ⟨role, hrole⟩ := hasFocus_iff.1 h
  exact isOnPath_iff.2 ⟨role, Bool.or_eq_true_iff.2 (.inl hrole)⟩

/-- The keys of the point of focus and of the hops of a path. -/
def pathKeys (length : Int) : List String := "?POF" :: (countTo length).map fun i => "?POF" ++ integerText i

private theorem mem_pathKeys {length : Int} {k : String} :
    k ∈ pathKeys length ↔ ∃ x, k = "?" ++ x ∧ (x = "POF" ∨ ∃ i ∈ countTo length, x = "POF" ++ integerText i) := by
  have hhop (i : Int) : "?POF" ++ integerText i = "?" ++ ("POF" ++ integerText i) := by
    rw [← String.append_assoc]
    rfl
  rw [pathKeys, List.mem_cons, List.mem_map]
  constructor
  · rintro (rfl | ⟨i, hi, rfl⟩)
    · exact ⟨"POF", rfl, .inl rfl⟩
    · exact ⟨_, hhop i, .inr ⟨i, hi, rfl⟩⟩
  · rintro ⟨x, rfl, rfl | ⟨i, hi, rfl⟩⟩
    · exact .inl rfl
    · exact .inr ⟨i, hi, hhop i⟩

private theorem Rdf.Term.isOnPath_iff {length : Int} {t : Term} : t.isOnPath length = true ↔
    ∃ x, t = .var x ∧ (x = "POF" ∨ ∃ i ∈ countTo length, x = "POF" ++ integerText i) := by
  simp only [isOnPath, Bool.or_eq_true, List.any_eq_true, isVarNamed_iff, isFocus_iff]
  constructor
  · rintro (rfl | ⟨i, hi, rfl⟩)
    · exact ⟨_, rfl, .inl rfl⟩
    · exact ⟨_, rfl, .inr ⟨i, hi, rfl⟩⟩
  · rintro ⟨x, rfl, rfl | ⟨i, hi, rfl⟩⟩
    · exact .inl rfl
    · exact .inr ⟨i, hi, rfl⟩

private theorem Rdf.Term.isOnPath_of_key {length : Int} {t : Term} (h : NodeShape t ∨ VerbShape t) {k : String}
    (hkey : t.key = .ok k) : (pathKeys length).contains k = t.isOnPath length := by
  rw [Bool.eq_iff_iff, List.contains_iff_mem, mem_pathKeys, isOnPath_iff]
  constructor
  · rintro ⟨x, rfl, hx⟩
    exact ⟨x, eq_var_of_key h hkey, hx⟩
  · rintro ⟨x, rfl, hx⟩
    exact ⟨x, (Except.ok.inj hkey).symm, hx⟩

/-- A pattern of a query has a key of the point of focus if and only if the point of focus or a hop stands in it. -/
private theorem Query.PatternShape.touches_eq {p : Pattern} (h : PatternShape p) (length : Int) :
    ∃ ks, p.keys = .ok ks ∧ touches ks (pathKeys length) = p.isOnPath length := by
  obtain ⟨s, q, o, hs, hq, ho, hkeys⟩ := h.writable.keys
  refine ⟨_, hkeys, ?_⟩
  simp only [touches, List.any_cons, List.any_nil, Bool.or_false, Pattern.isOnPath,
    Rdf.Term.isOnPath_of_key (.inl h.subject) hs, Rdf.Term.isOnPath_of_key (.inr h.predicate) hq,
    Rdf.Term.isOnPath_of_key (.inl h.object) ho, Bool.or_assoc]

namespace Scope

private theorem focusKeys_eq {s : Scope} (h : s.projection = defaultProjection → s.pathLength = 0) :
    s.focusKeys = pathKeys s.pathLength := by
  unfold focusKeys
  split
  next hdefault =>
    rw [h hdefault]
    rfl
  next => rfl

private theorem focusSubject_of_split {s : Scope} {before after : List Pattern} {q : Pattern} {text : String}
    (hsplit : s.patterns = before ++ q :: after)
    (hbefore : ∀ p ∈ before, ∃ ks, p.keys = .ok ks ∧ touches ks s.focusKeys = false)
    (hq : ∃ ks, q.keys = .ok ks ∧ touches ks s.focusKeys = true) (hrender : q.subject.render = .ok text) :
    s.focusSubject = .ok (some text) := by
  rw [focusSubject, hsplit]
  clear hsplit
  induction before with
  | nil =>
    obtain ⟨ks, hkeys, htouches⟩ := hq
    rw [List.nil_append, focusSubject.find, hkeys]
    simp only [bind, Except.bind, htouches, ↓reduceIte, hrender]
    rfl
  | cons p before ih =>
    obtain ⟨⟨ks, hkeys, htouches⟩, hbefore⟩ := List.forall_mem_cons.1 hbefore
    rw [List.cons_append, focusSubject.find, hkeys]
    simp only [bind, Except.bind, htouches, Bool.false_eq_true, ↓reduceIte]
    exact ih hbefore

private theorem focusSubject_of_marked {t : Scope} {length : Int} {before after : List Pattern} {q : Pattern}
    {text : String} (hlength : t.pathLength = length) (hkeys : t.projection = defaultProjection → length = 0)
    (hsplit : t.patterns = before ++ q :: after) (hshape : ∀ p ∈ before, PatternShape p)
    (hbefore : ∀ p ∈ before, p.isOnPath length = false)
    (hq : ∃ ks, q.keys = .ok ks ∧ touches ks (pathKeys length) = true) (hrender : q.subject.render = .ok text)
    (subjects : List String) : (t.keeping (t.patterns.map (marked subjects))).focusSubject = .ok (some text) := by
  have hfocus : (t.keeping (t.patterns.map (marked subjects))).focusKeys = pathKeys length := by
    rw [← hlength] at hkeys ⊢
    exact focusKeys_eq hkeys
  have hsplit' : (t.keeping (t.patterns.map (marked subjects))).patterns =
      before.map (marked subjects) ++ marked subjects q :: after.map (marked subjects) := by
    rw [keeping_patterns, hsplit, List.map_append, List.map_cons]
  refine focusSubject_of_split hsplit' (fun p hp => ?_) ?_ hrender
  · obtain ⟨r, hr, rfl⟩ := List.mem_map.1 hp
    obtain ⟨ks, hks, htouches⟩ := (hshape r hr).touches_eq length
    exact ⟨ks, hks, by rw [hfocus, htouches, hbefore r hr]⟩
  · rw [hfocus]
    exact hq

end Scope

/-- The last node between two hops, if a path is written out for the pattern, as a query writes it. -/
def lastNode (length : Int) (p : Pattern) : String :=
  "?" ++ (p.subject.name ++ p.object.name ++ (length - 1).toNat.repr)

private theorem render_lastHop {p : Pattern} (h : PatternShape p) {text : String} (htext : p.subject.render = .ok text)
    (length : Int) : (Scope.lastHop length p).subject.render = .ok (if 1 < length then lastNode length p else text) := by
  rw [Scope.lastHop]
  split
  next hlong =>
    obtain ⟨i, hi⟩ : ∃ i, (length - 1).toNat = i + 1 := ⟨(length - 1).toNat - 1, by omega⟩
    dsimp only
    rw [lastNode, hi, chainNode_succ (not_mem_stem h), Term.render]
  next hshort =>
    have hzero : (length - 1).toNat = 0 := by omega
    dsimp only
    rw [hzero]
    exact htext

private theorem touches_lastHop {p : Pattern} (h : p.Writable) {length : Int} (hlength : 1 ≤ length) :
    ∃ ks, (Scope.lastHop length p).keys = .ok ks ∧ touches ks (pathKeys length) = true := by
  have hwritable : (Scope.lastHop length p).Writable := Scope.lastHop_writable h
  obtain ⟨ks, hks, hmem⟩ := hwritable.hasKey_predicate (Scope.hop_key length)
  refine ⟨ks, hks, List.any_eq_true.2 ⟨_, hmem, List.contains_iff_mem.2 ?_⟩⟩
  exact List.mem_cons_of_mem _ (List.mem_map.2 ⟨length, Scope.mem_countTo hlength (Int.le_refl _), rfl⟩)

/-- The subject that is found after a path was written out: the last node before the place of the focus, unless the path
has no such node or another pattern with a hop comes first. -/
theorem Scope.focusSubject_expand {t : Scope} (hshape : ∀ p ∈ t.patterns, PatternShape p)
    (hlength : 0 ≤ t.pathLength)
    (hplace : t.pathLength ≠ 0 → ∀ r ∈ t.patterns, r.hasFocus = true → r.predicate.isFocus = true) {p : Pattern}
    (hp : t.patterns.find? Pattern.hasFocus = some p) (subjects : List String) :
    ∃ q other, t.patterns.find? (Pattern.isOnPath t.pathLength) = some q ∧ q.subject.render = .ok other ∧
      (t.expand.keeping (t.expand.patterns.map (marked subjects))).focusSubject =
        .ok (some (if q.hasFocus = true ∧ 1 < t.pathLength then lastNode t.pathLength p else other)) := by
  obtain ⟨q, hq⟩ : ∃ q, t.patterns.find? (Pattern.isOnPath t.pathLength) = some q := by
    rw [← Option.isSome_iff_exists, List.find?_isSome]
    exact ⟨p, List.mem_of_find?_eq_some hp, Pattern.isOnPath_of_hasFocus (List.find?_some hp)⟩
  have hqshape := hshape q (List.mem_of_find?_eq_some hq)
  obtain ⟨other, hother⟩ := hqshape.writable.subject
  refine ⟨q, other, hq, hother, ?_⟩
  obtain ⟨hqpath, before, after, hsplit, hbefore⟩ := List.find?_eq_some_iff_append.1 hq
  have hbefore : ∀ r ∈ before, r.isOnPath t.pathLength = false := fun r hr => by simpa using hbefore r hr
  have hbeforeShape : ∀ r ∈ before, PatternShape r := fun r hr => hshape r (by simp [hsplit, hr])
  have hqtouches : ∃ ks, q.keys = .ok ks ∧ touches ks (pathKeys t.pathLength) = true := by
    obtain ⟨ks, hks, htouches⟩ := hqshape.touches_eq t.pathLength
    exact ⟨ks, hks, htouches.trans hqpath⟩
  have hnoFocus {r : Pattern} (hr : r.isOnPath t.pathLength = false) : r.hasFocus = false := by
    rw [Bool.eq_false_iff]
    intro hfocus
    rw [Pattern.isOnPath_of_hasFocus hfocus] at hr
    cases hr
  have hnotPredicate {r : Pattern} (hr : r.hasFocus = false) : r.predicate ≠ .focus := fun hpredicate => by
    simp [Pattern.hasFocus, isFocus_iff.2 hpredicate] at hr
  have hskip : ∀ r ∈ before, r.predicate ≠ .focus := fun r hr => hnotPredicate (hnoFocus (hbefore r hr))
  have hsame := expand_pathLength t
  by_cases hzero : t.pathLength = 0
  · have hexpand : t.expand = t := by rw [expand, if_pos hzero]
    rw [if_neg (by omega), hexpand]
    exact focusSubject_of_marked rfl (fun _ => hzero) hsplit hbeforeShape hbefore hqtouches hother subjects
  obtain ⟨n, hn⟩ : ∃ n : Nat, t.pathLength = n + 1 := ⟨(t.pathLength - 1).toNat, by omega⟩
  have hkeys : t.expand.projection = pathProjection (n + 1) → t.expand.projection = defaultProjection →
      t.pathLength = 0 := fun hpath hdefault => absurd (hpath.symm.trans hdefault) (pathProjection_ne _)
  cases hqfocus : q.hasFocus with
  | true =>
    -- the focus comes first, and the last hop stands in its place
    obtain rfl : q = p := Option.some.inj ((find?_of_imp (fun _ => Pattern.isOnPath_of_hasFocus) hq hqfocus).symm.trans hp)
    have hpredicate := isFocus_iff.1 (hplace hzero q (List.mem_of_find?_eq_some hq) hqfocus)
    have hexpand := expand_eq hn hsplit hskip hpredicate
    have htouches := touches_lastHop hqshape.writable (show 1 ≤ t.pathLength by omega)
    have hlast := render_lastHop hqshape hother t.pathLength
    have hsplit' : t.expand.patterns = before ++ lastHop t.pathLength q :: (after ++ firstHops (n + 1) q) := by
      simp [hexpand, hn]
    have hfound := focusSubject_of_marked hsame (hkeys (by rw [hexpand])) hsplit' hbeforeShape hbefore htouches hlast subjects
    simpa using hfound
  | false =>
    -- a pattern with a hop comes first, which the path leaves as it is
    obtain ⟨between, rest, hafter, hbetween⟩ : ∃ between rest, after = between ++ p :: rest ∧
        ∀ r ∈ between, r.hasFocus = false := by
      have hnone : before.find? Pattern.hasFocus = none :=
        List.find?_eq_none.2 fun r hr => by simp [hnoFocus (hbefore r hr)]
      rw [hsplit, List.find?_append, hnone, Option.none_or, List.find?_cons, hqfocus] at hp
      obtain ⟨-, between, rest, hafter, hbetween⟩ := List.find?_eq_some_iff_append.1 hp
      exact ⟨between, rest, hafter, fun r hr => by simpa using hbetween r hr⟩
    have hpredicate := isFocus_iff.1 (hplace hzero p (List.mem_of_find?_eq_some hp) (List.find?_some hp))
    have hskip' : ∀ r ∈ before ++ q :: between, r.predicate ≠ .focus := by
      refine List.forall_mem_append.2 ⟨hskip, List.forall_mem_cons.2 ⟨hnotPredicate hqfocus, fun r hr => ?_⟩⟩
      exact hnotPredicate (hbetween r hr)
    have hsplit' : t.patterns = (before ++ q :: between) ++ p :: rest := by simp [hsplit, hafter]
    have hexpand := expand_eq hn hsplit' hskip' hpredicate
    have hfirst : t.expand.patterns =
        before ++ q :: (between ++ lastHop (n + 1) p :: rest ++ firstHops (n + 1) p) := by simp [hexpand]
    have hfound := focusSubject_of_marked hsame (hkeys (by rw [hexpand])) hfirst hbeforeShape hbefore hqtouches hother subjects
    simpa using hfound

/-- The last node of a path of several hops is never the subject of the pattern that it is written out for. -/
private theorem lastNode_ne {p : Pattern} (h : PatternShape p) {text : String} (htext : p.subject.render = .ok text)
    (length : Int) : lastNode length p ≠ text := by
  rintro rfl
  have hvar : p.subject = .var (p.subject.name ++ p.object.name ++ (length - 1).toNat.repr) := by
    refine eq_var_of_key (.inl h.subject) ?_
    unfold Term.key
    split
    next htype =>
      -- the type predicate is an IRI, which is no text with a question mark
      cases hsubject : p.subject with
      | iri iri =>
        have hshape : IsIri iri := by simpa [hsubject, NodeShape] using h.subject
        rw [hsubject, Term.render, hshape.renderIri] at htext
        have hstart := congrArg (fun text => text.toList.head?) (Except.ok.inj htext)
        simp [lastNode] at hstart
      | _ => simp [hsubject, Term.isType] at htype
    next => exact htext
  have hlength := congrArg (fun t => t.name.length) hvar
  have hpos : ((length - 1).toNat.repr).length ≠ 0 := by simp
  simp only [Term.name, String.length_append] at hlength
  omega

/-- The point of focus stands in the place of its marker only, which is that of a predicate if a path is sought. -/
private theorem predicate_of_hasFocus {text : List Char} {s : Scope} (h : parse text = .ok s)
    (hwritten : "POF" ∉ writtenVariables text) {m : Marker} (hmarker : markerOf text = some m) {p : Pattern}
    (hp : p ∈ s.patterns) (hfocus : p.hasFocus = true) (hlength : s.pathLength ≠ 0) : p.predicate.isFocus = true := by
  have haccounts := parse_focus h hwritten
  obtain ⟨hhinted, -⟩ := parse_hinted h
  rw [hmarker] at haccounts hhinted
  obtain ⟨_, _, _, _, hpredicate⟩ | ⟨_, hzero⟩ := hhinted.pathLength
  case inr => exact absurd hzero hlength
  obtain ⟨role, hterm⟩ := Pattern.hasFocus_iff.1 hfocus
  obtain rfl := (hpredicate ▸ haccounts.inRole.role_eq hp (isFocus_iff.1 hterm) : role = .predicate)
  exact hterm

/-- Only the point of focus is on the path right after a text was read, if no variable of the text has the name of a hop:
the variables that are made up have other names. -/
private theorem hasFocus_of_isOnPath {text : List Char} {s : Scope} (h : parse text = .ok s) {length : Int}
    (hhops : ∀ i ∈ countTo length, "POF" ++ integerText i ∉ writtenVariables text) {p : Pattern} (hp : p ∈ s.patterns)
    (hpath : p.isOnPath length = true) : p.hasFocus = true := by
  obtain ⟨role, hrole⟩ := Pattern.isOnPath_iff.1 hpath
  obtain ⟨x, hx, rfl | ⟨i, hi, rfl⟩⟩ := Rdf.Term.isOnPath_iff.1 hrole
  · exact Pattern.hasFocus_iff.2 ⟨role, isFocus_iff.2 hx⟩
  · rcases parse_variables h ⟨p, hp, role, hx⟩ with hwritten | hname | hname | ⟨n, hname⟩
    · exact absurd hwritten (hhops i hi)
    · have hfocus : "POF" ++ integerText i = "POF" ++ "" := hname
      exact absurd ((String.append_right_inj "POF").1 hfocus) (Number.integerText_ne_empty i)
    · have hstart := congrArg (fun text => text.toList.head?) hname
      simp at hstart
    · have hstart := congrArg (fun text => text.toList.head?) hname
      simp at hstart

/-- The subject of the first pattern with the point of focus, right after a text was read, is what a template is shown if
and only if no pattern with a hop comes before and the path has at most one hop. If no variable of the text has the name
of a hop, the length of the path alone decides. -/
theorem recommendationQuery_subject {text : List Char} {s : Scope} (h : parse text = .ok s)
    (hwritten : "POF" ∉ writtenVariables text) {m : Marker} (hmarker : markerOf text = some m) :
    ∃ p q trimmed after written other shown, s.patterns.find? Pattern.hasFocus = some p ∧
      p.subject.render = .ok written ∧ s.trim = .ok trimmed ∧
      trimmed.patterns.find? (Pattern.isOnPath s.pathLength) = some q ∧ q.subject.render = .ok other ∧
      shown = (if q.hasFocus = true ∧ 1 < s.pathLength then lastNode s.pathLength p else other) ∧
      (∀ (template : Template) (context : List (String × Data.Value)), context.any (·.1 = "self") = false →
        s.recommendationQuery template context =
          ((Template.renderNodes (Template.scopeBindings after (some shown) context) template.nodes).map (·.1), after)) ∧
      (shown = written ↔ (q.hasFocus = true → s.pathLength ≤ 1) ∧ other = written) ∧
      ((∀ i ∈ countTo s.pathLength, "POF" ++ integerText i ∉ writtenVariables text) →
        (shown = written ↔ s.pathLength ≤ 1)) := by
  classical
  have hscope := parse_shaped h
  have hw : ∀ p ∈ s.patterns, p.Writable := fun p hp => (hscope.patterns p hp).writable
  obtain ⟨kept, subjects, htrim, hkept, hmark⟩ := Scope.passes_eq hw
  have hmem : ∀ r ∈ kept, r ∈ s.patterns := fun r hr => (List.mem_filter.1 (hkept ▸ hr)).1
  have hplace : s.pathLength ≠ 0 → ∀ r ∈ s.patterns, r.hasFocus = true → r.predicate.isFocus = true :=
    fun hlength r hr hfocus => predicate_of_hasFocus h hwritten hmarker hr hfocus hlength
  have hfirst : kept.find? Pattern.hasFocus = s.patterns.find? Pattern.hasFocus := by
    rw [hkept]
    exact find?_filter_of_imp fun r hr hfocus => decide_eq_true (Scope.connected_of_hasFocus hw hr hfocus)
  obtain ⟨p, hp⟩ : ∃ p, s.patterns.find? Pattern.hasFocus = some p := by
    have haccounts := parse_focus h hwritten
    rw [hmarker] at haccounts
    obtain ⟨r, hr, hfocus⟩ := haccounts.inRole.exists_focus
    rw [← Option.isSome_iff_exists, List.find?_isSome]
    exact ⟨r, hr, Pattern.hasFocus_iff.2 ⟨_, hfocus⟩⟩
  have hpshape := hscope.patterns p (List.mem_of_find?_eq_some hp)
  obtain ⟨written, hpsubject⟩ := hpshape.writable.subject
  obtain ⟨q, other, hq, hother, hshown⟩ := Scope.focusSubject_expand (t := s.keeping kept)
    (fun r hr => hscope.patterns r (hmem r hr)) hscope.pathLength (fun hlength r hr => hplace hlength r (hmem r hr))
    (hfirst.trans hp) subjects
  have hsame (hfocus : q.hasFocus = true) : other = written := by
    have hqp := (find?_of_imp (fun _ => Pattern.isOnPath_of_hasFocus) hq hfocus).symm.trans (hfirst.trans hp)
    obtain rfl := Option.some.inj hqp
    exact Except.ok.inj (hother.symm.trans hpsubject)
  have hiff : (if q.hasFocus = true ∧ 1 < s.pathLength then lastNode s.pathLength p else other) = written ↔
      (q.hasFocus = true → s.pathLength ≤ 1) ∧ other = written := by
    -- the node between the last two hops is made up, so it is never the subject that was written
    split
    next hlong =>
      refine iff_of_false (lastNode_ne hpshape hpsubject _) fun hshort => ?_
      have := hshort.1 hlong.1
      omega
    next hshort => exact ⟨fun heq => ⟨fun hfocus => by by_contra; exact hshort ⟨hfocus, by omega⟩, heq⟩, fun heq => heq.2⟩
  refine ⟨p, q, _, (s.keeping kept).expand.keeping ((s.keeping kept).expand.patterns.map (Scope.marked subjects)), written,
    other, _, hp, hpsubject, htrim, hq, hother, rfl, fun template context hcontext => ?_, hiff,
    fun hhops => ?_⟩
  · have hprepare : s.prepare = (.ok (),
        (s.keeping kept).expand.keeping ((s.keeping kept).expand.patterns.map (Scope.marked subjects))) := by
      rw [Scope.prepare, htrim]
      exact hmark
    rw [Scope.recommendationQuery, hprepare]
    simp only [Template.render, hshown, hcontext]
    rfl
  · have hfocus := hasFocus_of_isOnPath h hhops (hmem q (List.mem_of_find?_eq_some hq)) (List.find?_some hq)
    rw [hiff]
    simp [hfocus, hsame hfocus]

/-- The point of focus hangs off `?s`, but a template is shown the node between the two hops. -/
theorem recommendationQuery_subject_two_hops : ∃ s p after written shown,
    parse "SELECT * \x7b ?s 2/< \x7d".toList = .ok s ∧ s.patterns.find? Pattern.hasFocus = some p ∧
      p.subject.render = .ok written ∧
      (∀ (template : Template) (context : List (String × Data.Value)), context.any (·.1 = "self") = false →
        s.recommendationQuery template context =
          ((Template.renderNodes (Template.scopeBindings after (some shown) context) template.nodes).map (·.1), after)) ∧
      shown ≠ written := by
  have hread : (((parse "SELECT * \x7b ?s 2/< \x7d".toList).toOption.map fun s => s.pathLength) = some 2) ∧
      writtenVariables "SELECT * \x7b ?s 2/< \x7d".toList = ["s"] ∧ markerOf "SELECT * \x7b ?s 2/< \x7d".toList =
        some ⟨⟨.focus (.pathLength 2), "<", 14, 17⟩, .predicate⟩ := by decide +kernel
  obtain ⟨hlength, hvariables, hmarker⟩ := hread
  obtain ⟨s, hparse, hlength⟩ := exists_ok_of_map hlength
  obtain ⟨p, q, trimmed, after, written, other, shown, hp, hwritten, -, -, -, -, hquery, -, hiff⟩ :=
    recommendationQuery_subject hparse (by rw [hvariables]; decide) hmarker
  refine ⟨s, p, after, written, shown, hparse, hp, hwritten, hquery, fun heq => ?_⟩
  have hshort := (hiff fun i _ => ?_).1 heq
  · omega
  · rw [hvariables, List.mem_singleton]
    intro hname
    have hstart := congrArg (fun text => text.toList.head?) hname
    simp at hstart

end PointOfFocus
