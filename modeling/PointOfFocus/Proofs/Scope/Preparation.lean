import Mathlib.Data.List.TakeWhile
import PointOfFocus.Proofs.Scope.Component
import PointOfFocus.Scope.Recommendation

/-!
# Preparing a scope

What the three passes over the patterns of a scope do: trimming keeps what is connected to the focus, writing out a path
replaces one pattern of the focus by a chain, and marking the leaves changes nothing but the marks. After all three every
pattern is still connected to the focus (`connected_expand`), so that a second trimming and a second marking change
nothing; a second expansion does, if there is another pattern of the focus.
-/

namespace PointOfFocus

open PointOfFocus.Rdf

/-! ### Patterns that can be written -/

/-- The terms of the pattern can be written. -/
structure Pattern.Writable (p : Pattern) : Prop where
  subject : ∃ text, p.subject.render = .ok text
  predicate : ∃ text, p.predicate.render = .ok text
  object : ∃ text, p.object.render = .ok text

namespace Pattern

/-- The keys of a pattern that can be written are those of its terms. -/
theorem Writable.keys {p : Pattern} (h : p.Writable) : ∃ s q o, p.subject.key = .ok s ∧ p.predicate.key = .ok q ∧
    p.object.key = .ok o ∧ p.keys = .ok [s, q, o] := by
  obtain ⟨_, hs⟩ := h.subject
  obtain ⟨_, hq⟩ := h.predicate
  obtain ⟨_, ho⟩ := h.object
  obtain ⟨s, hs⟩ := key_of_render hs
  obtain ⟨q, hq⟩ := key_of_render hq
  obtain ⟨o, ho⟩ := key_of_render ho
  exact ⟨s, q, o, hs, hq, ho, by rw [Pattern.keys, hs, hq, ho]; rfl⟩

/-- A pattern that can be written has keys. -/
theorem Writable.exists_keys {p : Pattern} (h : p.Writable) : ∃ ks, p.keys = .ok ks := by
  obtain ⟨s, q, o, _, _, _, hkeys⟩ := h.keys
  exact ⟨_, hkeys⟩

theorem Writable.render {p : Pattern} (h : p.Writable) : ∃ text, p.render = .ok text := by
  obtain ⟨s, hs⟩ := h.subject
  obtain ⟨q, hq⟩ := h.predicate
  obtain ⟨o, ho⟩ := h.object
  obtain ⟨q, hq⟩ : ∃ q, p.predicate.renderPredicate = .ok q := key_of_render hq
  exact ⟨_, by rw [Pattern.render, hs, hq, ho]; rfl⟩

theorem Writable.hasKey_subject {p : Pattern} (h : p.Writable) {k : String} (hk : p.subject.key = .ok k) :
    p.HasKey k := by
  obtain ⟨s, q, o, hs, _, _, hkeys⟩ := h.keys
  cases hs.symm.trans hk
  exact ⟨_, hkeys, by simp⟩

theorem Writable.hasKey_predicate {p : Pattern} (h : p.Writable) {k : String} (hk : p.predicate.key = .ok k) :
    p.HasKey k := by
  obtain ⟨s, q, o, _, hq, _, hkeys⟩ := h.keys
  cases hq.symm.trans hk
  exact ⟨_, hkeys, by simp⟩

theorem Writable.hasKey_object {p : Pattern} (h : p.Writable) {k : String} (hk : p.object.key = .ok k) :
    p.HasKey k := by
  obtain ⟨s, q, o, _, _, ho, hkeys⟩ := h.keys
  cases ho.symm.trans hk
  exact ⟨_, hkeys, by simp⟩

/-- A key of the pattern is the key of one of its terms. -/
private theorem HasKey.cases {p : Pattern} (h : p.Writable) {k : String} (hk : p.HasKey k) :
    p.subject.key = .ok k ∨ p.predicate.key = .ok k ∨ p.object.key = .ok k := by
  obtain ⟨s, q, o, hs, hq, ho, hkeys⟩ := h.keys
  obtain ⟨ks, hks, hmem⟩ := hk
  cases hkeys.symm.trans hks
  rcases List.mem_cons.1 hmem with rfl | hmem
  · exact .inl hs
  rcases List.mem_cons.1 hmem with rfl | hmem
  · exact .inr (.inl hq)
  · cases List.mem_singleton.1 hmem
    exact .inr (.inr ho)

end Pattern

/-! ### Marking -/

namespace Scope

/-- The pattern with its mark, given the keys of the subjects. -/
def marked (subjects : List String) (p : Pattern) : Pattern :=
  { p with leaf := !subjects.contains (p.object.key.toOption.getD "") }

private theorem marked_writable {subjects : List String} {p : Pattern} (h : p.Writable) :
    (marked subjects p).Writable :=
  ⟨h.subject, h.predicate, h.object⟩

private theorem markAgainst_eq (subjects : List String) {ps : List Pattern} (h : ∀ p ∈ ps, p.Writable) :
    markAgainst subjects ps = (.ok (), ps.map (marked subjects)) := by
  induction ps with
  | nil => rfl
  | cons p ps ih =>
    obtain ⟨hp, hps⟩ := List.forall_mem_cons.1 h
    obtain ⟨_, _, o, _, _, ho, _⟩ := hp.keys
    simp [markAgainst, ho, ih hps, marked, Except.toOption]

private theorem mapM_subjects {ps : List Pattern} (h : ∀ p ∈ ps, p.Writable) :
    ∃ subjects, ps.mapM (fun p => p.subject.key) = .ok subjects := by
  induction ps with
  | nil => exact ⟨[], rfl⟩
  | cons p ps ih =>
    obtain ⟨hp, hps⟩ := List.forall_mem_cons.1 h
    obtain ⟨s, _, _, hs, _⟩ := hp.keys
    obtain ⟨subjects, hsubjects⟩ := ih hps
    exact ⟨s :: subjects, by rw [List.mapM_cons, hs, hsubjects]; rfl⟩

/-- Marking says of each pattern whether its object is no subject, and changes nothing else. -/
theorem markLeaves_eq {s : Scope} (h : ∀ p ∈ s.patterns, p.Writable) : ∃ subjects,
    s.markLeaves = (.ok (), { s with patterns := s.patterns.map (marked subjects) }) ∧
      s.patterns.mapM (fun p => p.subject.key) = .ok subjects := by
  obtain ⟨subjects, hsubjects⟩ := mapM_subjects h
  exact ⟨subjects, by simp only [markLeaves, hsubjects, markAgainst_eq subjects h], hsubjects⟩

/-- Marks that were set stay when they are set again. -/
theorem markLeaves_twice {s after : Scope} (h : ∀ p ∈ s.patterns, p.Writable) (hmark : s.markLeaves = (.ok (), after)) :
    after.markLeaves = (.ok (), after) := by
  obtain ⟨subjects, heq, hsubjects⟩ := markLeaves_eq h
  cases heq.symm.trans hmark
  have hsame : (s.patterns.map (marked subjects)).mapM (fun p => p.subject.key) = .ok subjects := by
    rw [List.mapM_map]
    exact hsubjects
  have hwritable : ∀ p ∈ s.patterns.map (marked subjects), p.Writable := by
    intro p hp
    obtain ⟨q, hq, rfl⟩ := List.mem_map.1 hp
    exact marked_writable (h q hq)
  simp only [markLeaves, hsame, markAgainst_eq subjects hwritable, List.map_map]
  rfl

/-! ### Writing out a path -/

/-- The pattern at the end of the chain for a pattern of the focus. -/
def lastHop (length : Int) (p : Pattern) : Pattern :=
  { p with
    subject := chainNode p.subject (p.subject.name ++ p.object.name) (length - 1).toNat
    predicate := .hop length }

/-- The patterns of the chain before its end. -/
def firstHops (length : Int) (p : Pattern) : List Pattern :=
  chainPatterns p.subject (p.subject.name ++ p.object.name) (length - 1).toNat

/-- A path is written out at the first pattern of the focus, if there is a path and such a pattern. -/
theorem expand_cases (s : Scope) :
    s.expand = s ∧ (s.pathLength = 0 ∨ ∀ p ∈ s.patterns, p.predicate.isFocus = false) ∨
    ∃ before p after, s.pathLength ≠ 0 ∧ s.patterns = before ++ p :: after ∧
      (∀ q ∈ before, q.predicate.isFocus = false) ∧ p.predicate.isFocus = true ∧
      s.expand = { s with
        patterns := before ++ lastHop s.pathLength p :: after ++ firstHops s.pathLength p
        projection := pathProjection s.pathLength } := by
  unfold expand
  split
  next hzero => exact .inl ⟨rfl, .inl hzero⟩
  next hlength =>
    have hsplit := List.takeWhile_append_dropWhile (p := fun q : Pattern => !q.predicate.isFocus) (l := s.patterns)
    have hbefore : ∀ q ∈ s.patterns.takeWhile (!·.predicate.isFocus), q.predicate.isFocus = false := by
      intro q hq
      simpa using List.mem_takeWhile_imp hq
    split
    next hnone =>
      rw [hnone, List.append_nil] at hsplit
      rw [hsplit] at hbefore
      exact .inl ⟨rfl, .inr hbefore⟩
    next p after hafter =>
      have hp : p.predicate.isFocus = true := by
        have hhead := List.head_dropWhile_not (fun q : Pattern => !q.predicate.isFocus) (l := s.patterns) (by simp [hafter])
        simpa [hafter] using hhead
      rw [hafter] at hsplit
      exact .inr ⟨_, p, after, hlength, hsplit.symm, hbefore, hp, rfl⟩

theorem expand_pathLength (s : Scope) : s.expand.pathLength = s.pathLength := by
  rcases expand_cases s with ⟨heq, _⟩ | ⟨_, _, _, _, _, _, _, heq⟩ <;> rw [heq]

private theorem hop_writable (i : Int) : ∃ text, (Term.hop i).render = .ok text := ⟨_, by rw [Term.hop, Term.render]⟩

private theorem chainNode_writable {start : Term} {stem : String} (h : ∃ text, start.render = .ok text) (hops : Nat) :
    ∃ text, (chainNode start stem hops).render = .ok text := by
  unfold chainNode
  split
  · exact h
  · exact ⟨_, by rw [Term.named, Term.render]⟩

theorem lastHop_writable {length : Int} {p : Pattern} (h : p.Writable) : (lastHop length p).Writable :=
  ⟨chainNode_writable h.subject _, hop_writable _, h.object⟩

private theorem firstHops_writable {length : Int} {p : Pattern} (h : p.Writable) :
    ∀ q ∈ firstHops length p, q.Writable := by
  intro q hq
  obtain ⟨i, _, rfl⟩ := List.mem_map.1 hq
  exact ⟨chainNode_writable h.subject _, hop_writable _, chainNode_writable h.subject (i + 1)⟩

/-- A chain of several patterns starts at the subject of the pattern that it replaces. -/
private theorem exists_firstHop {length : Int} (p : Pattern) (h : 0 < (length - 1).toNat) :
    ∃ q ∈ firstHops length p, q.subject = p.subject :=
  ⟨_, List.mem_map.2 ⟨0, List.mem_range.2 h, rfl⟩, rfl⟩

/-- Writing out a path leaves patterns that can be written. -/
theorem expand_writable {s : Scope} (h : ∀ p ∈ s.patterns, p.Writable) : ∀ p ∈ s.expand.patterns, p.Writable := by
  rcases expand_cases s with ⟨heq, _⟩ | ⟨before, p, after, _, hsplit, _, _, heq⟩
  · rw [heq]
    exact h
  · rw [heq]
    rw [hsplit] at h
    intro q hq
    simp only [List.append_assoc, List.mem_append, List.mem_cons] at hq
    rcases hq with hq | (rfl | hq) | hq
    · exact h q (by simp [hq])
    · exact lastHop_writable (h p (by simp))
    · exact h q (by simp [hq])
    · exact firstHops_writable (h p (by simp)) q hq

/-! ### Keys of the focus -/

/-- The projection of a path is not the default one. -/
theorem pathProjection_ne (length : Int) : pathProjection length ≠ defaultProjection := by
  intro h
  have hhead := congrArg (fun text => text.toList.head?) h
  simp [pathProjection, defaultProjection] at hhead

theorem focus_mem_focusKeys (s : Scope) : "?POF" ∈ s.focusKeys := List.mem_cons_self

/-- The number lies on the way of a path of the given length. -/
theorem mem_countTo {i length : Int} (h₁ : 1 ≤ i) (h₂ : i ≤ length) : i ∈ countTo length := by
  refine List.mem_map.2 ⟨(i - 1).toNat, List.mem_range.2 (by omega), ?_⟩
  show ((i - 1).toNat + 1 : Int) = i
  omega

private theorem hop_mem_focusKeys {s : Scope} {i : Int} (h : s.projection ≠ defaultProjection) (h₁ : 1 ≤ i)
    (h₂ : i ≤ s.pathLength) : "?POF" ++ Number.integerText i ∈ s.focusKeys := by
  rw [focusKeys, if_neg h]
  exact List.mem_cons_of_mem _ (List.mem_map.2 ⟨i, mem_countTo h₁ h₂, rfl⟩)

/-- The key of a hop is its variable. -/
theorem hop_key (i : Int) : (Term.hop i).key = .ok ("?POF" ++ Number.integerText i) := by
  simp only [Term.hop, Term.key, Term.isType, Bool.false_eq_true, ↓reduceIte, Term.render, ← String.append_assoc]
  rfl

/-- The key of the point of focus is its variable. -/
theorem isFocus_key {t : Term} (h : t.isFocus = true) : t.key = .ok "?POF" := by
  unfold Term.isFocus at h
  split at h
  · cases of_decide_eq_true h
    rfl
  · cases h

private theorem focusKeys_default {s : Scope} (h : s.projection = defaultProjection) : s.focusKeys = ["?POF"] := by
  simp [focusKeys, h]

/-! ### Connections -/

/-- The key belongs to the focus or to a connected pattern. -/
def Joined (patterns : List Pattern) (focus : List String) (k : String) : Prop :=
  k ∈ focus ∨ ∃ p, Connected patterns focus p ∧ p.HasKey k

private theorem Joined.connected {patterns : List Pattern} {focus : List String} {k : String}
    (h : Joined patterns focus k) {p : Pattern} (hp : p ∈ patterns) (hk : p.HasKey k) : Connected patterns focus p := by
  rcases h with h | ⟨q, hq, hqk⟩
  · exact .start hp h hk
  · exact .next hq hp ⟨k, hqk, hk⟩

/-- If the keys of a pattern that is left out stay joined, so do the keys of all connected patterns. -/
private theorem joined_of_connected {patterns later : List Pattern} {focus : List String} {left : Pattern}
    (hfocus : "?POF" ∈ focus) (hmem : ∀ q ∈ patterns, q = left ∨ q ∈ later)
    (hleft : ∀ k, left.HasKey k → Joined later focus k) {q : Pattern} (h : Connected patterns ["?POF"] q) :
    ∀ k, q.HasKey k → Joined later focus k := by
  induction h with
  | @start q k hq hk hqk =>
    rcases hmem q hq with rfl | hq
    · exact hleft
    · rw [List.mem_singleton.1 hk] at hqk
      exact fun k hk => .inr ⟨q, .start hq hfocus hqk, hk⟩
  | @next p q _ hq hmeets ih =>
    rcases hmem q hq with rfl | hq
    · exact hleft
    · obtain ⟨k, hpk, hqk⟩ := hmeets
      exact fun k' hk' => .inr ⟨q, (ih k hpk).connected hq hqk, hk'⟩

/-- Once a path was written out, its hops have keys of the focus of their own. -/
private theorem connected_of_hop {s : Scope} (h : s.projection ≠ defaultProjection) {q : Pattern} (hq : q ∈ s.patterns)
    (hw : q.Writable) {i : Int} (hi : q.predicate = .hop i) (h₁ : 1 ≤ i) (h₂ : i ≤ s.pathLength) :
    Connected s.patterns s.focusKeys q := by
  have hkey : q.HasKey ("?POF" ++ Number.integerText i) := hw.hasKey_predicate (by rw [hi, hop_key])
  exact .start hq (hop_mem_focusKeys h h₁ h₂) hkey

/-- The chain goes from the subject to the object of the pattern that it replaces. -/
private theorem joined_ends {patterns : List Pattern} {focus : List String} {length : Int} {p : Pattern}
    (hfocus : "?POF" ∈ focus) (hp : p.Writable) (hpfocus : p.predicate.isFocus = true)
    (hlast : Connected patterns focus (lastHop length p))
    (hfirst : ∀ q ∈ firstHops length p, Connected patterns focus q) {k : String} (hk : p.HasKey k) :
    Joined patterns focus k := by
  rcases hk.cases hp with hk | hk | hk
  · refine .inr ?_
    by_cases hone : (length - 1).toNat = 0
    · refine ⟨_, hlast, (lastHop_writable hp).hasKey_subject ?_⟩
      simpa [lastHop, chainNode, hone] using hk
    · obtain ⟨q, hq, hsubject⟩ := exists_firstHop p (Nat.pos_of_ne_zero hone)
      exact ⟨q, hfirst q hq, (firstHops_writable hp q hq).hasKey_subject (by rw [hsubject, hk])⟩
  · rw [isFocus_key hpfocus] at hk
    cases hk
    exact .inl hfocus
  · exact .inr ⟨_, hlast, (lastHop_writable hp).hasKey_object hk⟩

/-- After a path was written out, the patterns are connected to the focus if they were before. -/
theorem connected_expand {s : Scope} (hw : ∀ p ∈ s.patterns, p.Writable) (hlength : 0 ≤ s.pathLength)
    (hprojection : s.projection = defaultProjection) (hc : ∀ p ∈ s.patterns, Connected s.patterns s.focusKeys p) :
    ∀ q ∈ s.expand.patterns, Connected s.expand.patterns s.expand.focusKeys q := by
  have hwritable := expand_writable hw
  rcases expand_cases s with ⟨heq, _⟩ | ⟨before, p, after, hne, hsplit, _, hpfocus, heq⟩
  · rw [heq]
    exact hc
  have hpatterns : s.expand.patterns = before ++ lastHop s.pathLength p :: after ++ firstHops s.pathLength p := by
    rw [heq]
  have hexpanded : s.expand.projection ≠ defaultProjection := by
    rw [heq]
    exact pathProjection_ne _
  have hsame := expand_pathLength s
  have hlastmem : lastHop s.pathLength p ∈ s.expand.patterns := by simp [hpatterns]
  have hlast : Connected s.expand.patterns s.expand.focusKeys (lastHop s.pathLength p) :=
    connected_of_hop hexpanded hlastmem (hwritable _ hlastmem) rfl (by omega) (by omega)
  have hfirst : ∀ q ∈ firstHops s.pathLength p, Connected s.expand.patterns s.expand.focusKeys q := by
    intro q hq
    have hmem : q ∈ s.expand.patterns := by simp [hpatterns, hq]
    have hq' := hwritable q hmem
    obtain ⟨i, hi, rfl⟩ := List.mem_map.1 hq
    have hlt := List.mem_range.1 hi
    exact connected_of_hop hexpanded hmem hq' rfl (by omega) (by omega)
  -- both ends of the path stay joined, by way of the hops between them
  have hends : ∀ k, p.HasKey k → Joined s.expand.patterns s.expand.focusKeys k := fun k =>
    joined_ends (focus_mem_focusKeys _) (hw p (by simp [hsplit])) hpfocus hlast hfirst
  have hmem : ∀ r ∈ s.patterns, r = p ∨ r ∈ s.expand.patterns := by
    intro r hr
    rw [hsplit] at hr
    rw [hpatterns]
    simp only [List.mem_append, List.mem_cons] at hr ⊢
    tauto
  -- a pattern that stays keeps its connection, whose steps over the path now go over the hops
  have hold : ∀ q ∈ s.patterns, q ∈ s.expand.patterns → Connected s.expand.patterns s.expand.focusKeys q := by
    intro q hq hqmem
    have hconnected := hc q hq
    rw [focusKeys_default hprojection] at hconnected
    obtain ⟨k, _, _, hk, _⟩ := (hwritable q hqmem).keys
    have hkey := (hwritable q hqmem).hasKey_subject hk
    exact (joined_of_connected (focus_mem_focusKeys _) hmem hends hconnected k hkey).connected hqmem hkey
  intro q hq
  have hcases := hq
  rw [hpatterns] at hcases
  simp only [List.mem_append, List.mem_cons] at hcases
  rcases hcases with (hb | rfl | ha) | hf
  · exact hold q (by simp [hsplit, hb]) hq
  · exact hlast
  · exact hold q (by simp [hsplit, ha]) hq
  · exact hfirst q hf

/-- Connections only depend on keys. -/
private theorem connected_marked {patterns : List Pattern} {focus subjects : List String} {p : Pattern}
    (h : Connected patterns focus p) : Connected (patterns.map (marked subjects)) focus (marked subjects p) := by
  induction h with
  | start hp hk hpk => exact .start (List.mem_map_of_mem hp) hk hpk
  | next _ hq hpq ih => exact .next ih (List.mem_map_of_mem hq) hpq

/-! ### Patterns of the focus -/

/-- The number of patterns whose predicate is the point of focus. -/
def focusCount (patterns : List Pattern) : Nat := patterns.countP (·.predicate.isFocus)

private theorem hop_not_focus (i : Int) : (Term.hop i).isFocus = false := by
  simp only [Term.hop, Term.isFocus, decide_eq_false_iff_not]
  intro h
  have hlength := congrArg String.length h
  rw [String.length_append] at hlength
  have hempty : (Number.integerText i).length = 0 := by
    simpa using hlength
  exact Number.integerText_ne_empty i (by simpa using hempty)

private theorem focusCount_append (ps qs : List Pattern) : focusCount (ps ++ qs) = focusCount ps + focusCount qs :=
  List.countP_append

private theorem focusCount_cons (p : Pattern) (ps : List Pattern) :
    focusCount (p :: ps) = focusCount ps + if p.predicate.isFocus then 1 else 0 := List.countP_cons

private theorem focusCount_eq_zero {ps : List Pattern} (h : ∀ p ∈ ps, p.predicate.isFocus = false) :
    focusCount ps = 0 := by
  rw [focusCount, List.countP_eq_zero]
  intro p hp
  simp [h p hp]

/-- A path is written out for one pattern of the focus. -/
theorem focusCount_expand {s : Scope} (h : s.pathLength ≠ 0) :
    focusCount s.expand.patterns = focusCount s.patterns - 1 := by
  rcases expand_cases s with ⟨heq, hzero | hnone⟩ | ⟨before, p, after, _, hsplit, hbefore, hp, heq⟩
  · exact absurd hzero h
  · rw [heq, focusCount_eq_zero hnone]
  · have hfirst : ∀ q ∈ firstHops s.pathLength p, q.predicate.isFocus = false := by
      intro q hq
      obtain ⟨i, _, rfl⟩ := List.mem_map.1 hq
      exact hop_not_focus _
    have hlast : (lastHop s.pathLength p).predicate.isFocus = false := hop_not_focus _
    rw [heq, hsplit]
    simp only [focusCount_append, focusCount_cons, focusCount_eq_zero hbefore, focusCount_eq_zero hfirst, hlast, hp]
    simp

private theorem focusCount_marked (subjects : List String) (ps : List Pattern) :
    focusCount (ps.map (marked subjects)) = focusCount ps := by
  rw [focusCount, List.countP_map]
  rfl

/-! ### All passes -/

/-- The scope with other patterns. -/
def keeping (s : Scope) (patterns : List Pattern) : Scope := { s with patterns }

@[simp] theorem keeping_patterns (s : Scope) (ps : List Pattern) : (s.keeping ps).patterns = ps := rfl

@[simp] theorem keeping_pathLength (s : Scope) (ps : List Pattern) : (s.keeping ps).pathLength = s.pathLength := rfl

/-- Trimming keeps some of the patterns, among them those of the focus, and those that it keeps are connected. -/
theorem trim_kept {s : Scope} (hw : ∀ p ∈ s.patterns, p.Writable) : ∃ kept, s.trim = .ok (s.keeping kept) ∧
    kept.Sublist s.patterns ∧ (∀ p ∈ kept, Connected kept s.focusKeys p) ∧
    kept.filter (·.predicate.isFocus) = s.patterns.filter (·.predicate.isFocus) := by
  classical
  refine ⟨_, trim_eq fun p hp => (hw p hp).exists_keys, List.filter_sublist, fun p hp => ?_, ?_⟩
  · refine Connected.of_connected (fun q hq => ?_) (of_decide_eq_true (List.mem_filter.1 hp).2)
    exact List.mem_filter.2 ⟨hq.mem, decide_eq_true hq⟩
  · rw [List.filter_filter]
    refine List.filter_congr fun p hp => ?_
    by_cases hfocus : p.predicate.isFocus = true
    · have hconnected : Connected s.patterns s.focusKeys p :=
        .start hp (focus_mem_focusKeys s) ((hw p hp).hasKey_predicate (isFocus_key hfocus))
      simp [hfocus, hconnected]
    · simp [hfocus]

/-- The scope has been prepared: its patterns are those that were kept, with a path written out and leaves marked, and
neither trimming nor marking them again would change anything. -/
structure Prepared (s : Scope) (kept : List Pattern) (after : Scope) : Prop where
  prepare : s.prepare = (.ok (), after)
  sublist : kept.Sublist s.patterns
  focus : kept.filter (·.predicate.isFocus) = s.patterns.filter (·.predicate.isFocus)
  expanded : ∃ subjects, after =
    (s.keeping kept).expand.keeping ((s.keeping kept).expand.patterns.map (marked subjects))
  writable : ∀ p ∈ after.patterns, p.Writable
  trim : after.trim = .ok after
  markLeaves : after.markLeaves = (.ok (), after)

/-- A scope whose patterns can be written is prepared without a fault. -/
theorem exists_prepared {s : Scope} (hw : ∀ p ∈ s.patterns, p.Writable) (hlength : 0 ≤ s.pathLength)
    (hprojection : s.projection = defaultProjection) : ∃ kept after, Prepared s kept after := by
  obtain ⟨kept, htrim, hsublist, hconnected, hfocus⟩ := trim_kept hw
  have hkept : ∀ p ∈ kept, p.Writable := fun p hp => hw p (hsublist.subset hp)
  have hexpand := expand_writable (s := s.keeping kept) hkept
  obtain ⟨subjects, hmark, _⟩ := markLeaves_eq hexpand
  have hwritable : ∀ p ∈ (s.keeping kept).expand.patterns.map (marked subjects), p.Writable := by
    intro p hp
    obtain ⟨q, hq, rfl⟩ := List.mem_map.1 hp
    exact marked_writable (hexpand q hq)
  have hc := connected_expand (s := s.keeping kept) hkept hlength hprojection hconnected
  refine ⟨kept, _, ?_, hsublist, hfocus, ⟨subjects, rfl⟩, hwritable, ?_, markLeaves_twice hexpand hmark⟩
  · rw [Scope.prepare, htrim]
    exact hmark
  · refine trim_of_connected (fun p hp => (hwritable p hp).exists_keys) fun p hp => ?_
    obtain ⟨q, hq, rfl⟩ := List.mem_map.1 hp
    exact connected_marked (hc q hq)

namespace Prepared

variable {s after : Scope} {kept : List Pattern}

theorem pathLength (h : Prepared s kept after) : after.pathLength = s.pathLength := by
  obtain ⟨subjects, rfl⟩ := h.expanded
  simp [expand_pathLength]

/-- Writing out a path takes one pattern with the point of focus as predicate away. -/
theorem focusCount_eq (h : Prepared s kept after) (hlength : s.pathLength ≠ 0) :
    focusCount after.patterns = focusCount s.patterns - 1 := by
  obtain ⟨subjects, rfl⟩ := h.expanded
  have hkept : focusCount kept = focusCount s.patterns := by
    rw [focusCount, List.countP_eq_length_filter, h.focus, ← List.countP_eq_length_filter, focusCount]
  rw [keeping_patterns, focusCount_marked, focusCount_expand (s := s.keeping kept) hlength, keeping_patterns, hkept]

/-- A scope that has been prepared stays as it is when it is prepared again, if no path is left to be written out. -/
theorem prepare_again (h : Prepared s kept after) (hnone : after.pathLength = 0 ∨ focusCount after.patterns = 0) :
    after.prepare = (.ok (), after) := by
  have hexpand : after.expand = after := by
    rcases expand_cases after with ⟨heq, _⟩ | ⟨before, p, _, hne, hsplit, _, hp, _⟩
    · exact heq
    · rcases hnone with hzero | hnone
      · exact absurd hzero hne
      · rw [hsplit, focusCount_append, focusCount_cons, hp] at hnone
        simp at hnone
  rw [Scope.prepare, h.trim]
  simp only [hexpand, h.markLeaves]

/-- If there is another path to be written out, preparing the scope again does so. -/
theorem focusCount_again (h : Prepared s kept after) (hlength : s.pathLength ≠ 0) :
    focusCount after.prepare.2.patterns = focusCount after.patterns - 1 := by
  obtain ⟨subjects, hmark, _⟩ := markLeaves_eq (expand_writable h.writable)
  rw [Scope.prepare, h.trim]
  simp only [hmark, focusCount_marked]
  exact focusCount_expand (by rwa [h.pathLength])

end Prepared

end Scope

end PointOfFocus
