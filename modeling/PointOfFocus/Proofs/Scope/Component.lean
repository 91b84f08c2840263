import Mathlib.Data.List.Basic
import PointOfFocus.Scope.Chain

/-!
# What trimming keeps

Trimming keeps the patterns that are connected to the point of focus by a finite chain of patterns, each of which
shares a key with the next.

* The reached keys only grow, and a pass that adds nothing has reached a set that is closed: a pattern with a reached
  key has all of its keys reached (`closed_of_pass`).
* A pass over a set that is not closed takes in all keys of a further pattern, so one pass more than there are
  patterns always ends with a closed set (`saturate_closed`).
* Every key that is reached belongs to the focus or to a connected pattern (`saturate_forall`), and a closed set that
  holds the keys of the focus holds those of every connected pattern: trimming keeps just these (`Scope.trim_eq`).
-/

namespace PointOfFocus

open PointOfFocus.Rdf

/-! ### Saturation -/

private theorem touches_iff {keys reached : List String} : touches keys reached = true ↔ ∃ k ∈ keys, k ∈ reached := by
  simp [touches]

/-- Every list of keys that touches the reached ones is among them. -/
def Closed (keys : List (List String)) (reached : List String) : Prop :=
  ∀ ks ∈ keys, touches ks reached = true → ks ⊆ reached

private theorem prefix_absorb (reached ks : List String) : reached <+: absorb reached ks := by
  unfold absorb
  split
  · exact List.prefix_append _ _
  · exact List.prefix_refl _

private theorem subset_absorb {reached ks : List String} (h : touches ks reached = true) : ks ⊆ absorb reached ks := by
  intro k hk
  simp only [absorb, h, ↓reduceIte, List.mem_append, List.mem_filter]
  by_cases hr : k ∈ reached
  · exact .inl hr
  · exact .inr ⟨hk, by simpa using hr⟩

private theorem prefix_pass (keys : List (List String)) (reached : List String) :
    reached <+: keys.foldl absorb reached := by
  induction keys generalizing reached with
  | nil => exact List.prefix_refl _
  | cons ks keys ih => exact (prefix_absorb reached ks).trans (ih _)

private theorem touches_mono {ks reached later : List String} (hsub : reached ⊆ later)
    (h : touches ks reached = true) : touches ks later = true := by
  obtain ⟨k, hk, hr⟩ := touches_iff.1 h
  exact touches_iff.2 ⟨k, hk, hsub hr⟩

/-- A pass takes in all keys of every pattern that touches the reached ones. -/
private theorem subset_pass {keys : List (List String)} {reached ks : List String} (hks : ks ∈ keys)
    (h : touches ks reached = true) : ks ⊆ keys.foldl absorb reached := by
  induction keys generalizing reached with
  | nil => cases hks
  | cons first keys ih =>
    rcases List.mem_cons.1 hks with rfl | hks
    · exact fun k hk => (prefix_pass keys _).subset (subset_absorb h hk)
    · exact ih hks (touches_mono (prefix_absorb reached first).subset h)

/-- A pass that adds no key started from a closed set. -/
theorem closed_of_pass {keys : List (List String)} {reached : List String}
    (h : (keys.foldl absorb reached).length = reached.length) : Closed keys reached := by
  have heq : reached = keys.foldl absorb reached := (prefix_pass keys reached).eq_of_length h.symm
  intro ks hks ht
  rw [heq]
  exact subset_pass hks ht

private theorem absorb_of_subset {reached ks : List String} (h : touches ks reached = true → ks ⊆ reached) :
    absorb reached ks = reached := by
  unfold absorb
  split
  · rename_i ht
    have hnil : (ks.filter fun k => !reached.contains k) = [] := by
      rw [List.filter_eq_nil_iff]
      intro k hk
      simpa using h ht hk
    rw [hnil, List.append_nil]
  · rfl

/-- A pass over a closed set adds no key. -/
private theorem pass_of_closed {keys : List (List String)} {reached : List String} (h : Closed keys reached) :
    keys.foldl absorb reached = reached := by
  induction keys with
  | nil => rfl
  | cons ks keys ih =>
    rw [List.foldl_cons, absorb_of_subset (h ks List.mem_cons_self)]
    exact ih fun ks' hks' => h ks' (List.mem_cons_of_mem _ hks')

/-- The number of patterns of which some key is not reached. -/
private def outside (keys : List (List String)) (reached : List String) : Nat :=
  keys.countP fun ks => !ks.all reached.contains

private theorem isOutside_mono {reached later : List String} (ks : List String) (hsub : reached ⊆ later)
    (h : (!ks.all later.contains) = true) : (!ks.all reached.contains) = true := by
  simp only [Bool.not_eq_true', List.all_eq_false, List.contains_eq_mem, decide_eq_true_eq] at h ⊢
  obtain ⟨k, hk, hl⟩ := h
  exact ⟨k, hk, fun hr => hl (hsub hr)⟩

/-- A pass over a set that is not closed takes in a further pattern. -/
private theorem outside_pass_lt {keys : List (List String)} {reached : List String} (h : ¬Closed keys reached) :
    outside keys (keys.foldl absorb reached) < outside keys reached := by
  simp only [Closed, not_forall] at h
  obtain ⟨ks, hks, ht, hout⟩ := h
  have hsub := (prefix_pass keys reached).subset
  have hin := subset_pass hks ht
  generalize keys.foldl absorb reached = later at hsub hin
  obtain ⟨before, after, rfl⟩ := List.append_of_mem hks
  have hbefore := List.countP_mono_left (l := before) fun ks _ => isOutside_mono ks hsub
  have hafter := List.countP_mono_left (l := after) fun ks _ => isOutside_mono ks hsub
  have hlater : ks.all later.contains = true := by simpa using fun k hk => hin hk
  have hnow : ks.all reached.contains = false := by
    obtain ⟨k, hk, hr⟩ := not_forall₂.1 hout
    simpa using ⟨k, hk, hr⟩
  simp only [outside, List.countP_append, List.countP_cons, hlater, hnow]
  simp only [Bool.not_true, Bool.false_eq_true, Bool.not_false, ↓reduceIte]
  omega

private theorem saturate_of_closed {keys : List (List String)} {reached : List String} (h : Closed keys reached)
    (passes : Nat) : saturate keys passes reached = reached := by
  cases passes with
  | zero => rfl
  | succ passes => simp [saturate, pass_of_closed h]

private theorem saturate_closed_of_le {keys : List (List String)} {passes : Nat} {reached : List String}
    (h : outside keys reached ≤ passes) : Closed keys (saturate keys (passes + 1) reached) := by
  induction passes generalizing reached with
  | zero =>
    have hclosed : Closed keys reached := by
      by_contra hopen
      have := outside_pass_lt hopen
      omega
    rwa [saturate_of_closed hclosed]
  | succ passes ih =>
    by_cases hclosed : Closed keys reached
    · rwa [saturate_of_closed hclosed]
    · have hlt := outside_pass_lt hclosed
      rw [saturate]
      split
      · rename_i hlen
        exact closed_of_pass hlen
      · exact ih (by omega)

/-- One pass more than there are patterns ends with a closed set. -/
theorem saturate_closed (keys : List (List String)) (reached : List String) :
    Closed keys (saturate keys (keys.length + 1) reached) :=
  saturate_closed_of_le List.countP_le_length

private theorem absorb_forall {P : String → Prop} {reached ks : List String}
    (hstep : (∃ k ∈ ks, P k) → ∀ k ∈ ks, P k) (h : ∀ k ∈ reached, P k) : ∀ k ∈ absorb reached ks, P k := by
  intro k hk
  unfold absorb at hk
  split at hk
  · rename_i ht
    obtain ⟨k', hk', hr⟩ := touches_iff.1 ht
    rcases List.mem_append.1 hk with hk | hk
    · exact h k hk
    · exact hstep ⟨k', hk', h k' hr⟩ k (List.mem_filter.1 hk).1
  · exact h k hk

private theorem pass_forall {keys : List (List String)} {P : String → Prop}
    (hstep : ∀ ks ∈ keys, (∃ k ∈ ks, P k) → ∀ k ∈ ks, P k) {reached : List String} (h : ∀ k ∈ reached, P k) :
    ∀ k ∈ keys.foldl absorb reached, P k := by
  induction keys generalizing reached with
  | nil => exact h
  | cons ks keys ih =>
    have hfirst := absorb_forall (hstep ks List.mem_cons_self) h
    exact ih (fun ks' hks' => hstep ks' (List.mem_cons_of_mem _ hks')) hfirst

/-- What holds of the given keys, and of all keys of a pattern if of one of them, holds of every reached key. -/
theorem saturate_forall {keys : List (List String)} {P : String → Prop}
    (hstep : ∀ ks ∈ keys, (∃ k ∈ ks, P k) → ∀ k ∈ ks, P k) {passes : Nat} {reached : List String}
    (h : ∀ k ∈ reached, P k) : ∀ k ∈ saturate keys passes reached, P k := by
  induction passes generalizing reached with
  | zero => exact h
  | succ passes ih =>
    rw [saturate]
    split
    · exact h
    · exact ih (pass_forall hstep h)

private theorem subset_saturate (keys : List (List String)) (passes : Nat) (reached : List String) :
    reached ⊆ saturate keys passes reached := by
  induction passes generalizing reached with
  | zero => exact fun _ hk => hk
  | succ passes ih =>
    rw [saturate]
    split
    · exact fun _ hk => hk
    · exact fun _ hk => ih _ ((prefix_pass keys reached).subset hk)

/-! ### Connected patterns -/

namespace Pattern

/-- The text is the key of one of the pattern's terms. -/
def HasKey (p : Pattern) (k : String) : Prop := ∃ ks, p.keys = .ok ks ∧ k ∈ ks

/-- The patterns have a key in common. -/
def Meets (p q : Pattern) : Prop := ∃ k, p.HasKey k ∧ q.HasKey k

/-- A term that can be written has a key. -/
theorem key_of_render {t : Term} {text : String} (h : t.render = .ok text) : ∃ k, t.key = .ok k := by
  unfold Term.key
  split
  · exact ⟨_, rfl⟩
  · exact ⟨text, h⟩

/-- The terms of a pattern that can be written have keys. -/
theorem keys_of_render {p : Pattern} {text : String} (h : p.render = .ok text) : ∃ ks, p.keys = .ok ks := by
  obtain ⟨s, hs⟩ : ∃ s, p.subject.render = .ok s := by
    cases hs : p.subject.render with
    | ok s => exact ⟨s, rfl⟩
    | error e => rw [render, hs] at h; cases h
  obtain ⟨q, hq⟩ : ∃ q, p.predicate.key = .ok q := by
    cases hq : p.predicate.renderPredicate with
    | ok q => exact ⟨q, hq⟩
    | error e => rw [render, hs, hq] at h; cases h
  obtain ⟨o, ho⟩ : ∃ o, p.object.render = .ok o := by
    cases ho : p.object.render with
    | ok o => exact ⟨o, rfl⟩
    | error e =>
      rw [render, hs, show p.predicate.renderPredicate = .ok q from hq, ho] at h
      cases h
  obtain ⟨ks, hks⟩ := key_of_render hs
  obtain ⟨ko, hko⟩ := key_of_render ho
  exact ⟨[ks, q, ko], by rw [keys, hks, hq, hko]; rfl⟩

end Pattern

/-- A finite chain of the patterns leads from one with a key of the focus to the given one, and each pattern of the
chain has a key in common with the next. -/
inductive Connected (patterns : List Pattern) (focus : List String) : Pattern → Prop
  /-- The chain of one pattern. -/
  | start {p : Pattern} {k : String} (hp : p ∈ patterns) (hk : k ∈ focus) (hpk : p.HasKey k) :
    Connected patterns focus p
  /-- A chain with a further pattern at its end. -/
  | next {p q : Pattern} (hp : Connected patterns focus p) (hq : q ∈ patterns) (hpq : p.Meets q) :
    Connected patterns focus q

/-- Only the given patterns are connected. -/
theorem Connected.mem {patterns : List Pattern} {focus : List String} {p : Pattern}
    (h : Connected patterns focus p) : p ∈ patterns := by
  cases h <;> assumption

private theorem Connected.mono {patterns later : List Pattern} {focus : List String} (hsub : patterns ⊆ later)
    {p : Pattern} (h : Connected patterns focus p) : Connected later focus p := by
  induction h with
  | start hp hk hpk => exact .start (hsub hp) hk hpk
  | next _ hq hpq ih => exact .next ih (hsub hq) hpq

/-- The keys of a pattern, none if it cannot be written. -/
private def keyList (p : Pattern) : List String := p.keys.toOption.getD []

private theorem keys_eq_keyList {p : Pattern} (h : ∃ ks, p.keys = .ok ks) : p.keys = .ok (keyList p) := by
  obtain ⟨ks, hks⟩ := h
  simp [keyList, hks, Except.toOption]

private theorem mapM_keys {patterns : List Pattern} (h : ∀ p ∈ patterns, ∃ ks, p.keys = .ok ks) :
    patterns.mapM Pattern.keys = .ok (patterns.map keyList) := by
  induction patterns with
  | nil => rfl
  | cons p patterns ih =>
    rw [List.mapM_cons, keys_eq_keyList (h p List.mem_cons_self),
      ih fun q hq => h q (List.mem_cons_of_mem _ hq)]
    rfl

private theorem hasKey_iff {p : Pattern} (h : ∃ ks, p.keys = .ok ks) {k : String} : p.HasKey k ↔ k ∈ keyList p := by
  simp [Pattern.HasKey, keys_eq_keyList h]

section Trimming

variable {patterns : List Pattern} (h : ∀ p ∈ patterns, ∃ ks, p.keys = .ok ks) (focus : List String)

/-- The keys that are reached from the focus. -/
private def reachedKeys (patterns : List Pattern) (focus : List String) : List String :=
  saturate (patterns.map keyList) ((patterns.map keyList).length + 1) focus

include h in
private theorem touches_of_connected {p : Pattern} (hp : Connected patterns focus p) :
    touches (keyList p) (reachedKeys patterns focus) = true := by
  have hclosed := saturate_closed (patterns.map keyList) focus
  induction hp with
  | start hp hk hpk =>
    exact touches_iff.2 ⟨_, (hasKey_iff (h _ hp)).1 hpk, subset_saturate _ _ _ hk⟩
  | next hp hq hpq ih =>
    obtain ⟨k, hpk, hqk⟩ := hpq
    have hsub := hclosed _ (List.mem_map_of_mem hp.mem) ih
    exact touches_iff.2 ⟨k, (hasKey_iff (h _ hq)).1 hqk, hsub ((hasKey_iff (h _ hp.mem)).1 hpk)⟩

include h in
private theorem connected_of_touches {p : Pattern} (hp : p ∈ patterns)
    (ht : touches (keyList p) (reachedKeys patterns focus) = true) : Connected patterns focus p := by
  -- a pattern with a key of the focus or of a connected pattern is connected
  have hjoin : ∀ q ∈ patterns, (∃ k ∈ keyList q, k ∈ focus ∨ ∃ r, Connected patterns focus r ∧ r.HasKey k) →
      Connected patterns focus q := by
    rintro q hq ⟨k, hk, hfocus | ⟨r, hr, hrk⟩⟩
    · exact .start hq hfocus ((hasKey_iff (h q hq)).2 hk)
    · exact .next hr hq ⟨k, hrk, (hasKey_iff (h q hq)).2 hk⟩
  have hreached : ∀ k ∈ reachedKeys patterns focus, k ∈ focus ∨ ∃ r, Connected patterns focus r ∧ r.HasKey k := by
    apply saturate_forall
    · intro ks hks hsome k hk
      obtain ⟨q, hq, rfl⟩ := List.mem_map.1 hks
      exact .inr ⟨q, hjoin q hq hsome, (hasKey_iff (h q hq)).2 hk⟩
    · exact fun k hk => .inl hk
  obtain ⟨k, hk, hr⟩ := touches_iff.1 ht
  exact hjoin p hp ⟨k, hk, hreached k hr⟩

end Trimming

private theorem filter_zip_map {α β : Type} (f : α → β) (test : β → Bool) (l : List α) :
    ((l.zip (l.map f)).filter fun entry => test entry.2).map (·.1) = l.filter fun a => test (f a) := by
  induction l with
  | nil => rfl
  | cons a l ih =>
    simp only [List.map_cons, List.zip_cons_cons, List.filter_cons]
    split <;> simp [ih]

namespace Scope

open scoped Classical in
/-- Trimming a scope whose patterns have keys keeps the connected patterns and changes nothing else. -/
theorem trim_eq {s : Scope} (h : ∀ p ∈ s.patterns, ∃ ks, p.keys = .ok ks) :
    s.trim = .ok { s with patterns := s.patterns.filter fun p => Connected s.patterns s.focusKeys p } := by
  have hkept : s.patterns.filter (fun p => touches (keyList p) (reachedKeys s.patterns s.focusKeys)) =
      s.patterns.filter fun p => Connected s.patterns s.focusKeys p := by
    apply List.filter_congr
    intro p hp
    rw [Bool.eq_iff_iff, decide_eq_true_iff]
    exact ⟨connected_of_touches h _ hp, touches_of_connected h _⟩
  have hzip := filter_zip_map keyList (fun ks => touches ks (reachedKeys s.patterns s.focusKeys)) s.patterns
  rw [trim, mapM_keys h, ← hkept, ← hzip]
  rfl

/-- Trimming a scope of connected patterns changes nothing. -/
theorem trim_of_connected {s : Scope} (h : ∀ p ∈ s.patterns, ∃ ks, p.keys = .ok ks)
    (hc : ∀ p ∈ s.patterns, Connected s.patterns s.focusKeys p) : s.trim = .ok s := by
  rw [trim_eq h, List.filter_eq_self.2 fun p hp => by simpa using hc p hp]

end Scope

/-- A connected pattern stays connected when the others are dropped. -/
theorem Connected.of_connected {patterns kept : List Pattern} {focus : List String}
    (hkept : ∀ p, Connected patterns focus p → p ∈ kept) {p : Pattern} (h : Connected patterns focus p) :
    Connected kept focus p := by
  induction h with
  | start hp hk hpk => exact .start (hkept _ (.start hp hk hpk)) hk hpk
  | next hp hq hpq ih => exact .next ih (hkept _ (.next hp hq hpq)) hpq

namespace Scope

open scoped Classical in
/-- Trimming a scope whose patterns can be written keeps, in their order and as often as they occur, exactly the
patterns that are connected to the focus. So a second trimming changes nothing, a pattern with the focus variable is
never dropped, and the order of the patterns does not decide which of them are kept. -/
theorem trim_keeps_connected (s : Scope) (h : ∀ p ∈ s.patterns, ∃ text, p.render = .ok text) :
    ∃ t, s.trim = .ok t ∧
      t = { s with patterns := s.patterns.filter fun p => Connected s.patterns s.focusKeys p } ∧
      t.trim = .ok t ∧
      (∀ p ∈ s.patterns, p.HasKey "?POF" → p ∈ t.patterns) ∧
      ∀ patterns, patterns.Perm s.patterns →
        ∃ u, { s with patterns }.trim = .ok u ∧ u.patterns.Perm t.patterns := by
  have hkeys : ∀ p ∈ s.patterns, ∃ ks, p.keys = .ok ks := by
    intro p hp
    obtain ⟨text, htext⟩ := h p hp
    exact Pattern.keys_of_render htext
  refine ⟨_, trim_eq hkeys, rfl, ?_, ?_, ?_⟩
  · apply trim_of_connected
    · exact fun p hp => hkeys p (List.mem_filter.1 hp).1
    · intro p hp
      refine Connected.of_connected (fun q hq => ?_) (of_decide_eq_true (List.mem_filter.1 hp).2)
      exact List.mem_filter.2 ⟨hq.mem, decide_eq_true hq⟩
  · intro p hp hfocus
    exact List.mem_filter.2 ⟨hp, decide_eq_true (.start hp List.mem_cons_self hfocus)⟩
  · intro patterns hperm
    refine ⟨_, trim_eq fun p hp => hkeys p (hperm.mem_iff.1 hp), ?_⟩
    have hsame : (fun p => decide (Connected patterns s.focusKeys p)) =
        fun p => decide (Connected s.patterns s.focusKeys p) := by
      funext p
      rw [Bool.eq_iff_iff, decide_eq_true_iff, decide_eq_true_iff]
      exact ⟨Connected.mono hperm.subset, Connected.mono hperm.symm.subset⟩
    show (patterns.filter fun p => decide (Connected patterns s.focusKeys p)).Perm _
    rw [hsame]
    exact hperm.filter _

/-- A path of two predicates from `?s`, written out, a pattern that leads to `?s`, and one that has nothing to do with
them. -/
def twoHops : Scope where
  patterns := [{ subject := .var "a", predicate := .var "b", object := .var "c" },
    { subject := .var "o", predicate := .var "p", object := .var "s" },
    { subject := .named "sFillVar1", predicate := .hop 2, object := .filler },
    { subject := .var "s", predicate := .hop 1, object := .named "sFillVar1" }]
  pathLength := 2
  projection := pathProjection 2

/-- Trimming drops the pattern `?a ?b ?c` and keeps the other three, two for their hops and one for `?s`. -/
theorem trim_keeps_connected_two :
    ∃ t, twoHops.trim = .ok t ∧ t.patterns = twoHops.patterns.drop 1 ∧ t.trim = .ok t ∧
      (∀ p ∈ twoHops.patterns.drop 1, Connected twoHops.patterns ["?POF", "?POF1", "?POF2"] p) ∧
      ¬Connected twoHops.patterns ["?POF", "?POF1", "?POF2"]
        { subject := .var "a", predicate := .var "b", object := .var "c" } := by
  obtain ⟨t, htrim, hkept, hagain, -, -⟩ := trim_keeps_connected twoHops (by
    intro p hp
    simp only [twoHops, List.mem_cons, List.not_mem_nil, or_false] at hp
    rcases hp with rfl | rfl | rfl | rfl <;> exact ⟨_, rfl⟩)
  have hrun : twoHops.trim = .ok { twoHops with patterns := twoHops.patterns.drop 1 } := rfl
  have ht : t.patterns = twoHops.patterns.drop 1 := by rw [← Except.ok.inj (hrun.symm.trans htrim)]
  have hkeys : twoHops.focusKeys = ["?POF", "?POF1", "?POF2"] := rfl
  have hmem : ∀ p, p ∈ t.patterns ↔ p ∈ twoHops.patterns ∧ Connected twoHops.patterns ["?POF", "?POF1", "?POF2"] p := by
    intro p
    simp only [hkept, List.mem_filter, hkeys, decide_eq_true_iff]
  rw [ht] at hmem
  refine ⟨t, htrim, ht, hagain, fun p hp => ((hmem p).1 hp).2, fun hconnected => ?_⟩
  have hdropped := (hmem _).2 ⟨hconnected.mem, hconnected⟩
  simp [twoHops, Term.hop, Term.filler, Term.named] at hdropped

end Scope

end PointOfFocus
