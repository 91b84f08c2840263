import Mathlib.Algebra.BigOperators.Group.List.Basic
import Mathlib.Algebra.Ring.Int.Defs
import Mathlib.Data.List.Induction
import Mathlib.Data.List.Nodup
import Mathlib.Data.List.Perm.Basic
import PointOfFocus.Endpoint.Result
import PointOfFocus.Ranking.Rank

/-!
# What is ranked

The bindings of a result are counted by the text of their focus. After every prefix of the bindings, the candidates are
the distinct texts so far in the order in which they were first found (`foldlM_tally`), and the ranking is a stable sort
of the last of these lists (`rank_best`). Since only texts are compared, a candidate is also counted for the terms that
have its text but differ from it in kind, language or datatype (`rank_namesakes`).
-/

namespace PointOfFocus.Ranking

open PointOfFocus.Data
open PointOfFocus.Endpoint

/-! ### The candidates of bindings -/

/-- The values of the bindings are described, and none of their counts is infinite. -/
structure Rankable (bindings : List Binding) : Prop where
  described : ∀ b ∈ bindings, ∀ entry ∈ b, (entry.2.get? "value").isSome
  counts : ∀ b ∈ bindings, ∃ n, countOf (.dict b) = .ok n

/-- The term that a binding gives to the point of focus, not counted yet. -/
def focus? (b : Binding) : Option Candidate :=
  (valueOf? b "POF").map fun description => .ofDescription (described description).toText description

def text? (b : Binding) : Option String := (focus? b).map (·.value)

/-- How often a binding says that its solution occurs. -/
def occurrences (b : Binding) : Int := (countOf (.dict b)).toOption.getD 0

def total (bindings : List Binding) : Int := (bindings.map occurrences).sum

/-- The bindings that give the text to the point of focus. -/
def withText (bindings : List Binding) (text : String) : List Binding := bindings.filter (text? · = some text)

/-- The distinct texts in the order in which they are first found. -/
def texts (bindings : List Binding) : List String := (bindings.filterMap text?).eraseDups

/-- The term of the first binding that gives the text to the point of focus. -/
def firstWith? (bindings : List Binding) (text : String) : Option Candidate :=
  (bindings.find? (text? · = some text)).bind focus?

/-- The candidate with the text: the first term that has it, counted for every binding that has it. -/
def candidateOf (bindings : List Binding) (text : String) : Candidate :=
  { (firstWith? bindings text).getD { value := text } with count := total (withText bindings text) }

/-- The candidates in the order in which they are first found. -/
def seen (bindings : List Binding) : List Candidate := (texts bindings).map (candidateOf bindings)

private theorem eraseDups_concat (values : List String) (value : String) :
    (values ++ [value]).eraseDups = if value ∈ values then values.eraseDups else values.eraseDups ++ [value] := by
  rw [List.eraseDups_append]
  by_cases h : value ∈ values
  · simp [List.removeAll, h]
  · simp [List.removeAll, h, List.eraseDups_cons]

private theorem nodup_texts (bindings : List Binding) : (texts bindings).Nodup := by
  unfold texts
  induction bindings.filterMap text? using List.reverseRecOn with
  | nil => exact List.nodup_nil
  | append_singleton values value ih =>
    rw [eraseDups_concat]
    split
    next => exact ih
    next h =>
      rw [← List.concat_eq_append]
      apply ih.concat
      rwa [List.mem_eraseDups]

/-- The texts are those that some binding gives to the point of focus. -/
theorem mem_texts {bindings : List Binding} {text : String} :
    text ∈ texts bindings ↔ ∃ b ∈ bindings, text? b = some text := by
  rw [texts, List.mem_eraseDups, List.mem_filterMap]

private theorem text?_of_focus? {b : Binding} {c : Candidate} (h : focus? b = some c) : text? b = some c.value := by
  rw [text?, h, Option.map_some]

private theorem text?_of_find? {bindings : List Binding} {b : Binding} {text : String}
    (h : bindings.find? (text? · = some text) = some b) : text? b = some text := by
  simpa using List.find?_some h

private theorem firstWith?_value {bindings : List Binding} {text : String} {c : Candidate}
    (h : firstWith? bindings text = some c) : c.value = text := by
  obtain ⟨b, hfind, hb⟩ := Option.bind_eq_some_iff.1 h
  exact Option.some.inj ((text?_of_focus? hb).symm.trans (text?_of_find? hfind))

private theorem exists_firstWith? {bindings : List Binding} {text : String} (h : text ∈ texts bindings) :
    ∃ b c, bindings.find? (text? · = some text) = some b ∧ focus? b = some c := by
  obtain ⟨b, hb⟩ : ∃ b, bindings.find? (text? · = some text) = some b := by
    rw [← Option.isSome_iff_exists, List.find?_isSome]
    simpa using mem_texts.1 h
  obtain ⟨c, hc, -⟩ := Option.map_eq_some_iff.1 (text?_of_find? hb)
  exact ⟨b, c, hb, hc⟩

@[simp] theorem candidateOf_value (bindings : List Binding) (text : String) :
    (candidateOf bindings text).value = text := by
  unfold candidateOf
  cases h : firstWith? bindings text with
  | none => rfl
  | some c => exact @firstWith?_value bindings text c h

private theorem map_value_seen (bindings : List Binding) : (seen bindings).map (·.value) = texts bindings := by
  simp [seen, Function.comp_def]

private theorem nodup_seen (bindings : List Binding) : (seen bindings).Nodup := by
  apply List.Nodup.of_map (·.value)
  rw [map_value_seen]
  exact nodup_texts bindings

/-! ### One more binding -/

section

variable {bindings : List Binding} {b : Binding} {c : Candidate} {text : String}

private theorem seen_concat_of_unbound (h : focus? b = none) : seen (bindings ++ [b]) = seen bindings := by
  have htext : text? b = none := by rw [text?, h, Option.map_none]
  have htexts : texts (bindings ++ [b]) = texts bindings := by simp [texts, htext]
  have hcandidate : candidateOf (bindings ++ [b]) = candidateOf bindings := by
    funext text
    simp [candidateOf, firstWith?, withText, htext]
  rw [seen, seen, htexts, hcandidate]

private theorem texts_concat (h : text? b = some text) :
    texts (bindings ++ [b]) = if text ∈ texts bindings then texts bindings else texts bindings ++ [text] := by
  simp only [texts, List.filterMap_append, List.filterMap_cons, h, List.filterMap_nil, eraseDups_concat,
    List.mem_eraseDups]

private theorem total_withText_concat :
    total (withText (bindings ++ [b]) text) =
      total (withText bindings text) + if text? b = some text then occurrences b else 0 := by
  by_cases htext : text? b = some text <;> simp [withText, total, htext]

/-- A binding counts for the candidate with its text and leaves the others as they are. -/
private theorem candidateOf_concat_of_mem (htext : text ∈ texts bindings) :
    candidateOf (bindings ++ [b]) text =
      if text? b = some text then
        { candidateOf bindings text with count := (candidateOf bindings text).count + occurrences b }
      else candidateOf bindings text := by
  have hfirst : firstWith? (bindings ++ [b]) text = firstWith? bindings text := by
    obtain ⟨first, -, hfind, -⟩ := exists_firstWith? htext
    rw [firstWith?, firstWith?, List.find?_append, hfind, Option.some_or]
  unfold candidateOf
  rw [hfirst, total_withText_concat]
  split
  next => rfl
  next => rw [Int.add_zero]

/-- A text that is found for the first time comes with the kind, language and datatype of its binding. -/
private theorem candidateOf_concat_of_not_mem (h : focus? b = some c) (htext : c.value ∉ texts bindings) :
    candidateOf (bindings ++ [b]) c.value = { c with count := occurrences b } := by
  have hnone : ∀ b' ∈ bindings, ¬text? b' = some c.value := fun b' hb' heq => htext (mem_texts.2 ⟨b', hb', heq⟩)
  have hlast : text? b = some c.value := text?_of_focus? h
  have hfind : bindings.find? (text? · = some c.value) = none := by simpa using hnone
  have hfirst : firstWith? (bindings ++ [b]) c.value = some c := by
    rw [firstWith?, List.find?_append, hfind]
    simp [hlast, h]
  have hwithText : withText bindings c.value = [] := by simpa [withText] using hnone
  rw [candidateOf, hfirst, total_withText_concat, hwithText, if_pos hlast]
  simp [total]

private theorem countIn_seen {description : Value} (h : valueOf? b "POF" = some description) :
    countIn (seen bindings) (described description).toText description (occurrences b) = seen (bindings ++ [b]) := by
  have hfocus : focus? b = some (.ofDescription (described description).toText description) := by
    rw [focus?, h, Option.map_some]
  generalize hc : Candidate.ofDescription (described description).toText description = c at hfocus
  have hvalue : (described description).toText = c.value := by rw [← hc]; rfl
  have htext : text? b = some c.value := text?_of_focus? hfocus
  have hany : (seen bindings).any (·.value = c.value) = decide (c.value ∈ texts bindings) := by
    simp only [← map_value_seen, List.any_eq, List.mem_map, decide_eq_true_eq]
  rw [countIn, hc, hvalue, hany]
  by_cases hmem : c.value ∈ texts bindings
  -- a text that was found before: its candidate is counted up, and the order stays
  · rw [if_pos (decide_eq_true hmem), seen, seen, texts_concat htext, if_pos hmem, List.map_map]
    refine List.map_congr_left fun text hseen => ?_
    simp only [candidateOf_concat_of_mem hseen, htext, Option.some.injEq, Function.comp_apply, candidateOf_value,
      eq_comm]
  -- a new text: the candidates so far do not have it, and its own comes last
  · rw [if_neg (by simpa using hmem), seen, seen, texts_concat htext, if_neg hmem, List.map_append]
    refine congrArg₂ _ (List.map_congr_left fun text hseen => ?_) ?_
    · have hne : c.value ≠ text := (ne_of_mem_of_not_mem hseen hmem).symm
      rw [candidateOf_concat_of_mem hseen, htext, if_neg (mt Option.some.inj hne)]
    · rw [List.map_singleton, candidateOf_concat_of_not_mem hfocus hmem]

/-! ### Counting all bindings -/

private theorem mem_of_valueOf? {α : Type} {entries : List (String × α)} {key : String} {v : α}
    (h : valueOf? entries key = some v) : (key, v) ∈ entries := by
  obtain ⟨entry, hfind, rfl⟩ := Option.map_eq_some_iff.1 h
  have hkey : entry.1 = key := by simpa using List.find?_some hfind
  rw [← hkey]
  exact List.mem_of_find?_eq_some hfind

private theorem exists_entries {description : Value} (h : (description.get? "value").isSome) :
    ∃ entries v, description = .dict entries ∧ valueOf? entries "value" = some v := by
  obtain ⟨v, hv⟩ := Option.isSome_iff_exists.1 h
  cases description with
  | dict entries => exact ⟨entries, v, rfl, hv⟩
  | _ => cases hv

private theorem described_dict {entries : List (String × Value)} {v : Value} (h : valueOf? entries "value" = some v) :
    described (.dict entries) = v := by
  rw [described, Value.get?, h, Option.getD_some]

/-- What a binding says of the point of focus, if its values are described. -/
theorem focusOf_described (h : ∀ entry ∈ b, (entry.2.get? "value").isSome) :
    focusOf (.dict b) =
      .ok ((valueOf? b "POF").map fun description => ((described description).toText, description)) := by
  cases hfocus : valueOf? b "POF" with
  | none =>
    simp only [focusOf, Value.lookUp, hfocus, bind, Except.bind]
    rfl
  | some description =>
    obtain ⟨entries, v, rfl, hvalue⟩ := exists_entries (h _ (mem_of_valueOf? hfocus))
    -- the description has an entry, so it counts as true
    have hne : entries.isEmpty = false := by
      cases entries with
      | nil => cases hvalue
      | cons => rfl
    simp only [focusOf, Value.lookUp, hfocus, bind, Except.bind, Value.isTrue, hne, Value.member, hvalue]
    rw [Option.map_some, described_dict hvalue]
    rfl

private theorem tally_seen (hdescribed : ∀ entry ∈ b, (entry.2.get? "value").isSome) {n : Int}
    (hcount : countOf (.dict b) = .ok n) : tally (seen bindings) (.dict b) = .ok (seen (bindings ++ [b])) := by
  have hn : occurrences b = n := by rw [occurrences, hcount]; rfl
  simp only [tally, focusOf_described hdescribed, hcount, Except.mapError, bind, Except.bind, pure, Except.pure]
  cases hfocus : valueOf? b "POF" with
  | none =>
    have hunbound : focus? b = none := by rw [focus?, hfocus, Option.map_none]
    rw [seen_concat_of_unbound hunbound]
    rfl
  | some description =>
    rw [← countIn_seen hfocus, hn]
    rfl

/-- Counting the rest of the bindings gives the candidates of all of them. -/
theorem foldlM_tally {rest : List Binding} (h : Rankable rest) (bindings : List Binding) :
    (rest.map Value.dict).foldlM tally (seen bindings) = .ok (seen (bindings ++ rest)) := by
  -- the bindings so far move along: what is carried is always the list of their candidates
  induction rest generalizing bindings with
  | nil => rw [List.append_nil]; rfl
  | cons b rest ih =>
    obtain ⟨hdescribed, hrestDescribed⟩ := List.forall_mem_cons.1 h.described
    obtain ⟨⟨n, hcount⟩, hrestCounts⟩ := List.forall_mem_cons.1 h.counts
    rw [List.map_cons, List.foldlM_cons, tally_seen hdescribed hcount, List.append_cons bindings b rest]
    exact ih ⟨hrestDescribed, hrestCounts⟩ (bindings ++ [b])

/-- The ranking takes the first ones of the candidates by their counts. -/
theorem Rankable.rank_eq (h : Rankable bindings) (top : Int) :
    rank (bindings.map .dict) top = .ok (firstItems top (byCount (seen bindings))) := by
  have htally : (bindings.map Value.dict).foldlM tally [] = .ok (seen bindings) := foldlM_tally h []
  simp only [rank, htally, bind, Except.bind, pure, Except.pure]

end

/-! ### The order of the ranking -/

/-- In a ranking of the candidates, the one goes before the other: its count is greater, or the counts are equal and it
is found first. -/
def GoesBefore (candidates : List Candidate) (a b : Candidate) : Prop :=
  b.count < a.count ∨ b.count = a.count ∧ [a, b].Sublist candidates

private theorem pair_sublist_or {α : Type} {items : List α} {a b : α} (ha : a ∈ items) (hb : b ∈ items) (hne : a ≠ b) :
    [a, b].Sublist items ∨ [b, a].Sublist items := by
  obtain ⟨before, after, rfl⟩ := List.append_of_mem ha
  rcases List.mem_append.1 hb with hb | hb
  · exact .inr ((List.singleton_sublist.2 hb).append (List.singleton_sublist.2 List.mem_cons_self))
  · have hafter : b ∈ after := (List.mem_cons.1 hb).resolve_left hne.symm
    exact .inl (((List.singleton_sublist.2 hafter).cons_cons a).trans (List.sublist_append_right before _))

private theorem not_pair_sublist_swap {α : Type} {items : List α} {a b : α} (hnodup : items.Nodup)
    (hab : [a, b].Sublist items) : ¬[b, a].Sublist items := by
  intro hba
  induction items with
  | nil => cases hab
  | cons item items ih =>
    obtain ⟨hitem, hitems⟩ := List.nodup_cons.1 hnodup
    cases hab with
    | cons _ hab =>
      cases hba with
      | cons _ hba => exact ih hitems hab hba
      | cons_cons _ _ => exact hitem (hab.subset (by simp))
    | cons_cons _ hb =>
      cases hba with
      | cons _ hba => exact hitem (hba.subset (by simp))
      | cons_cons _ _ => exact hitem (List.singleton_sublist.1 hb)

/-- Sorting by count only changes the order. -/
theorem byCount_perm (candidates : List Candidate) : (byCount candidates).Perm candidates :=
  List.mergeSort_perm candidates _

/-- Sorting by count is stable. -/
theorem pairwise_byCount {candidates : List Candidate} (h : candidates.Nodup) :
    (byCount candidates).Pairwise (GoesBefore candidates) := by
  have htrans : ∀ a b c : Candidate, decide (b.count ≤ a.count) = true → decide (c.count ≤ b.count) = true →
      decide (c.count ≤ a.count) = true := by
    simp only [decide_eq_true_eq]
    omega
  have htotal : ∀ a b : Candidate, (decide (b.count ≤ a.count) || decide (a.count ≤ b.count)) = true := by
    simp only [Bool.or_eq_true, decide_eq_true_eq]
    omega
  have hsorted := List.pairwise_mergeSort htrans htotal candidates
  have hnodup : (byCount candidates).Nodup := (byCount_perm candidates).nodup_iff.2 h
  rw [List.pairwise_iff_forall_sublist]
  intro a b hab
  have hle : b.count ≤ a.count := by simpa using List.pairwise_iff_forall_sublist.1 hsorted hab
  have hne : a ≠ b := List.pairwise_iff_forall_sublist.1 hnodup hab
  have hmem : ∀ c ∈ [a, b], c ∈ candidates := fun c hc => (byCount_perm candidates).mem_iff.1 (hab.subset hc)
  obtain hlt | heq := Int.lt_or_eq_of_le hle
  · exact .inl hlt
  · refine .inr ⟨heq, (pair_sublist_or (hmem a (by simp)) (hmem b (by simp)) hne).resolve_right fun hba => ?_⟩
    -- a pair of equal counts that stood the other way round would have kept its order
    have hkept := List.pair_sublist_mergeSort htrans htotal (decide_eq_true (Int.le_of_eq heq.symm)) hba
    exact not_pair_sublist_swap hnodup hab hkept

private theorem firstItems_eq_take {α : Type} {top : Int} (h : 0 ≤ top) (items : List α) :
    firstItems top items = items.take (min top.toNat items.length) := by
  rw [firstItems, if_neg (Int.not_lt.2 h), ← List.take_eq_take_min]

/-! ### The best candidates -/

/-- The bindings that give a term to the point of focus. -/
def bound (bindings : List Binding) : List Binding := bindings.filter fun b => (text? b).isSome

/-- Bindings without a term for the point of focus add no candidate and no count. -/
theorem seen_bound (bindings : List Binding) : seen (bound bindings) = seen bindings := by
  have htexts : texts (bound bindings) = texts bindings := by
    rw [texts, bound, List.filterMap_filter]
    congr 2
    funext b
    cases text? b <;> rfl
  have hfirst (text : String) : firstWith? (bound bindings) text = firstWith? bindings text := by
    rw [firstWith?, bound, List.find?_filter, firstWith?]
    congr 2
    funext b
    cases text? b <;> simp
  have hwithText (text : String) : withText (bound bindings) text = withText bindings text := by
    rw [withText, bound, List.filter_filter, withText]
    congr 1
    funext b
    cases text? b <;> simp
  have hcandidate : candidateOf (bound bindings) = candidateOf bindings := by
    funext text
    rw [candidateOf, candidateOf, hfirst, hwithText]
  rw [seen, seen, htexts, hcandidate]

private theorem Rankable.bound {bindings : List Binding} (h : Rankable bindings) : Rankable (bound bindings) where
  described b hb := h.described b (List.mem_filter.1 hb).1
  counts b hb := h.counts b (List.mem_filter.1 hb).1

private theorem exists_candidateOf_eq {bindings : List Binding} {text : String} (h : text ∈ texts bindings) :
    ∃ b c, bindings.find? (text? · = some text) = some b ∧ focus? b = some c ∧
      candidateOf bindings text = { c with count := total (withText bindings text) } := by
  obtain ⟨b, c, hb, hc⟩ := exists_firstWith? h
  refine ⟨b, c, hb, hc, ?_⟩
  rw [candidateOf, firstWith?, hb, Option.bind_some, hc, Option.getD_some]

/-- The candidate is the term of a description with these entries. A term without a type is an IRI. -/
structure IsTermOf (entries : List (String × Value)) (c : Candidate) : Prop where
  value : (valueOf? entries "value").map Value.toText = some c.value
  type : c.type = ((valueOf? entries "type").map Value.toText).getD "uri"
  language : c.language = (valueOf? entries "xml:lang").getD .null
  datatype : c.datatype = (valueOf? entries "datatype").getD .null

private theorem isTermOf_of_focus? {b : Binding} (h : ∀ entry ∈ b, (entry.2.get? "value").isSome) {c : Candidate}
    (hfocus : focus? b = some c) : ∃ entries, valueOf? b "POF" = some (.dict entries) ∧ IsTermOf entries c := by
  obtain ⟨description, hvalueOf, rfl⟩ := Option.map_eq_some_iff.1 hfocus
  obtain ⟨entries, v, rfl, hvalue⟩ := exists_entries (h _ (mem_of_valueOf? hvalueOf))
  refine ⟨entries, hvalueOf, ?_, ?_, rfl, rfl⟩
  · rw [hvalue, described_dict hvalue]
    rfl
  · simp only [Candidate.ofDescription, Value.get?]
    cases valueOf? entries "type" <;> rfl

private theorem text?_eq {b : Binding} (h : ∀ entry ∈ b, (entry.2.get? "value").isSome) :
    text? b = ((valueOf? b "POF").bind (·.get? "value")).map Value.toText := by
  cases hfocus : valueOf? b "POF" with
  | none =>
    rw [text?, focus?, hfocus]
    rfl
  | some description =>
    obtain ⟨entries, v, rfl, hvalue⟩ := exists_entries (h _ (mem_of_valueOf? hfocus))
    rw [text?, focus?, hfocus, Option.map_some, Option.map_some, described_dict hvalue, Option.bind_some, Value.get?,
      hvalue, Option.map_some]
    rfl

/-- The best candidates are the first ones of a stable ranking of the distinct texts that bindings have for the point of
focus. Each has the type, language and datatype that stand in the description of the first binding with its text, and is
counted for all bindings with its text. Bindings without a term for the point of focus make no difference. -/
theorem rank_best {bindings : List Binding} (h : Rankable bindings) {top : Int} (htop : 0 ≤ top) :
    (∀ b ∈ bindings, text? b = ((valueOf? b "POF").bind (·.get? "value")).map Value.toText) ∧
    (texts bindings).Nodup ∧ (∀ text, text ∈ texts bindings ↔ ∃ b ∈ bindings, text? b = some text) ∧
    (∀ text ∈ texts bindings, ∃ b entries, bindings.find? (text? · = some text) = some b ∧
      valueOf? b "POF" = some (.dict entries) ∧ IsTermOf entries (candidateOf bindings text) ∧
      (candidateOf bindings text).value = text ∧
      (candidateOf bindings text).count = ((bindings.filter (text? · = some text)).map occurrences).sum) ∧
    (∃ ordered : List Candidate, ordered.Perm ((texts bindings).map (candidateOf bindings)) ∧
      ordered.Pairwise (GoesBefore ((texts bindings).map (candidateOf bindings))) ∧
      rank (bindings.map .dict) top = .ok (ordered.take (min top.toNat (texts bindings).length))) ∧
    rank ((bound bindings).map .dict) top = rank (bindings.map .dict) top := by
  refine ⟨fun b hb => text?_eq (h.described b hb), nodup_texts bindings, fun text => mem_texts, fun text htext => ?_,
    ⟨byCount (seen bindings), byCount_perm _, pairwise_byCount (nodup_seen bindings), ?_⟩, ?_⟩
  · obtain ⟨b, c, hfind, hfocus, hcandidate⟩ := exists_candidateOf_eq htext
    obtain ⟨entries, hentries, hterm⟩ := isTermOf_of_focus? (h.described b (List.mem_of_find?_eq_some hfind)) hfocus
    refine ⟨b, entries, hfind, hentries, ?_, candidateOf_value bindings text, rfl⟩
    rw [hcandidate]
    exact ⟨hterm.value, hterm.type, hterm.language, hterm.datatype⟩
  · have hlength : (byCount (seen bindings)).length = (texts bindings).length := by
      rw [(byCount_perm _).length_eq, seen, List.length_map]
    rw [h.rank_eq, firstItems_eq_take htop, hlength]
  · rw [h.rank_eq, h.bound.rank_eq, seen_bound]

def counted (description : List (String × Value)) (count : String) : Binding :=
  [("POF", .dict description), ("count", .dict [("value", .text count)])]

/-- Bindings that repeat a text with another type, tie two counts, and have one binding without a term, one without a
type and one without a number. -/
def tiedBindings : List Binding :=
  [counted [("type", .text "uri"), ("value", .text "a")] "3",
    counted [("type", .text "literal"), ("value", .text "b"), ("xml:lang", .text "fr")] "7",
    [("count", .dict [("value", .text "100")])],
    counted [("type", .text "literal"), ("value", .text "a"), ("xml:lang", .text "en")] "5",
    counted [("type", .text "typed-literal"), ("value", .text "c"), ("datatype", .text "d")] "8",
    counted [("value", .text "e")] "many"]

private theorem tiedBindings_rankable : Rankable tiedBindings where
  described := by decide
  counts := by
    intro b hb
    simp only [tiedBindings, List.mem_cons, List.not_mem_nil, or_false] at hb
    rcases hb with rfl | rfl | rfl | rfl | rfl | rfl <;> exact ⟨_, rfl⟩

/-- The two candidates with the greatest count keep the order in which they are found, and the text that is found again
as a word of a language remains an IRI. -/
theorem rank_best_tied :
    (∃ b entries, tiedBindings.find? (text? · = some "a") = some b ∧ valueOf? b "POF" = some (.dict entries) ∧
      IsTermOf entries (candidateOf tiedBindings "a")) ∧
    texts tiedBindings = ["a", "b", "c", "e"] ∧
    rank (tiedBindings.map .dict) 3 =
      .ok [{ value := "a", count := 8, type := "uri" },
        { value := "c", count := 8, type := "typed-literal", datatype := .text "d" },
        { value := "b", count := 7, type := "literal", language := .text "fr" }] := by
  obtain ⟨-, -, hmem, hcandidates, -⟩ := rank_best tiedBindings_rankable (by decide : (0 : Int) ≤ 3)
  have ha : "a" ∈ texts tiedBindings := (hmem "a").2 ⟨_, List.mem_cons_self, by decide +kernel⟩
  obtain ⟨b, entries, hfind, hentries, hterm, -⟩ := hcandidates "a" ha
  refine ⟨⟨b, entries, hfind, hentries, hterm⟩, by decide +kernel, ?_⟩
  have hseen : seen tiedBindings =
      [{ value := "a", count := 8 }, { value := "b", count := 7, type := "literal", language := .text "fr" },
        { value := "c", count := 8, type := "typed-literal", datatype := .text "d" }, { value := "e" }] := rfl
  rw [tiedBindings_rankable.rank_eq, hseen]
  simp [byCount, List.mergeSort, List.MergeSort.Internal.splitInTwo, firstItems]

/-! ### Terms with the same text -/

/-- The term of a candidate, without its count. -/
def Candidate.term (c : Candidate) : Candidate := { c with count := 0 }

open scoped Classical in
/-- The bindings that give the term of the candidate to the point of focus. -/
noncomputable def withTerm (bindings : List Binding) (c : Candidate) : List Binding :=
  bindings.filter fun b => focus? b = some c.term

open scoped Classical in
/-- The bindings that give another term with the text of the candidate to the point of focus. -/
noncomputable def namesakes (bindings : List Binding) (c : Candidate) : List Binding :=
  bindings.filter fun b => text? b = some c.value ∧ focus? b ≠ some c.term

private theorem total_withText (bindings : List Binding) (c : Candidate) :
    total (withText bindings c.value) = total (withTerm bindings c) + total (namesakes bindings c) := by
  classical
  have hterm : (withText bindings c.value).filter (fun b => focus? b = some c.term) = withTerm bindings c := by
    rw [withText, List.filter_filter, withTerm]
    refine List.filter_congr fun b _ => ?_
    rw [Bool.and_eq_left_iff_imp, decide_eq_true_eq, decide_eq_true_eq]
    exact text?_of_focus?
  have hnamesakes : (withText bindings c.value).filter (fun b => !decide (focus? b = some c.term)) =
      namesakes bindings c := by
    rw [withText, List.filter_filter, namesakes]
    refine List.filter_congr fun b _ => ?_
    rw [Bool.and_comm, Bool.decide_and, decide_not]
  have hsplit := List.filter_append_perm (fun b => focus? b = some c.term) (withText bindings c.value)
  rw [hterm, hnamesakes] at hsplit
  rw [total, ← (hsplit.map occurrences).sum_eq, List.map_append, List.sum_append, total, total]

private theorem focus?_count {b : Binding} {c : Candidate} (h : focus? b = some c) : c.count = 0 := by
  obtain ⟨description, -, rfl⟩ := Option.map_eq_some_iff.1 h
  rfl

private theorem firstWith?_of_mem_seen {bindings : List Binding} {c : Candidate} (h : c ∈ seen bindings) :
    firstWith? bindings c.value = some c.term := by
  obtain ⟨text, htext, rfl⟩ := List.mem_map.1 h
  obtain ⟨b, c, hb, hc, heq⟩ := exists_candidateOf_eq htext
  have hterm : (candidateOf bindings text).term = c := by
    rw [heq, Candidate.term, ← focus?_count hc]
  rw [candidateOf_value, hterm, firstWith?, hb, Option.bind_some, hc]

private theorem count_of_mem_seen {bindings : List Binding} {c : Candidate} (h : c ∈ seen bindings) :
    c.count = total (withTerm bindings c) + total (namesakes bindings c) := by
  rw [← total_withText]
  obtain ⟨text, -, rfl⟩ := List.mem_map.1 h
  rw [candidateOf_value, candidateOf]

/-- Each of the best candidates is the first term with its text. It is counted for its own bindings and for those of the
other terms with its text, so its count is right if and only if the latter come to nothing. -/
theorem rank_namesakes {bindings : List Binding} (h : Rankable bindings) (top : Int) :
    ∃ best, rank (bindings.map .dict) top = .ok best ∧ (best.map (·.value)).Nodup ∧
      (∀ c ∈ best, firstWith? bindings c.value = some c.term ∧
        c.count = total (withTerm bindings c) + total (namesakes bindings c)) ∧
      ((∀ c ∈ best, c.count = total (withTerm bindings c)) ↔ ∀ c ∈ best, total (namesakes bindings c) = 0) := by
  have hsublist : (firstItems top (byCount (seen bindings))).Sublist (byCount (seen bindings)) := List.take_sublist ..
  have hmem : ∀ c ∈ firstItems top (byCount (seen bindings)), c ∈ seen bindings := fun c hc =>
    (byCount_perm _).mem_iff.1 (hsublist.subset hc)
  refine ⟨_, h.rank_eq top, ?_, fun c hc => ⟨firstWith?_of_mem_seen (hmem c hc), count_of_mem_seen (hmem c hc)⟩, ?_⟩
  · have hnodup : ((byCount (seen bindings)).map (·.value)).Nodup := by
      rw [((byCount_perm _).map _).nodup_iff, map_value_seen]
      exact nodup_texts bindings
    exact hnodup.sublist (hsublist.map _)
  · refine forall₂_congr fun c hc => ?_
    rw [count_of_mem_seen (hmem c hc)]
    omega

def countedWord (word language count : String) : Binding :=
  [("POF", .dict [("type", .text "literal"), ("value", .text word), ("xml:lang", .text language)]),
    ("count", .dict [("value", .text count)])]

def sameWord : List Binding := [countedWord "chat" "fr" "2", countedWord "chat" "en" "3"]

private theorem sameWord_rankable : Rankable sameWord where
  described := by decide
  counts := by
    intro b hb
    simp only [sameWord, List.mem_cons, List.not_mem_nil, or_false] at hb
    rcases hb with rfl | rfl <;> exact ⟨_, rfl⟩

def frenchWord : Candidate where
  value := "chat"
  count := 5
  type := "literal"
  language := .text "fr"

/-- The word of the one language is also counted for the three times that it is a word of the other. -/
theorem rank_namesakes_languages :
    rank (sameWord.map .dict) 10 = .ok [frenchWord] ∧ firstWith? sameWord "chat" = some frenchWord.term ∧
      frenchWord.count = 5 ∧ total (withTerm sameWord frenchWord) = 2 ∧ total (namesakes sameWord frenchWord) = 3 := by
  obtain ⟨best, hbest, -, hcounts, -⟩ := rank_namesakes sameWord_rankable 10
  have hseen : seen sameWord = [frenchWord] := rfl
  have hrank : rank (sameWord.map .dict) 10 = .ok [frenchWord] := by
    rw [sameWord_rankable.rank_eq, hseen, byCount, List.mergeSort_singleton]
    rfl
  obtain rfl : [frenchWord] = best := Except.ok.inj (hrank.symm.trans hbest)
  obtain ⟨hfirst, hcount⟩ := hcounts frenchWord (List.mem_singleton_self _)
  have hfrench : focus? (countedWord "chat" "fr" "2") = some frenchWord.term := rfl
  have henglish : focus? (countedWord "chat" "en" "3") = some { frenchWord.term with language := .text "en" } := rfl
  have hown : withTerm sameWord frenchWord = [countedWord "chat" "fr" "2"] := by
    simp [withTerm, sameWord, hfrench, henglish, Candidate.term, frenchWord]
  have htwo : total (withTerm sameWord frenchWord) = 2 := by
    rw [hown]
    rfl
  refine ⟨hrank, hfirst, rfl, htwo, ?_⟩
  have hfive : frenchWord.count = 5 := rfl
  omega

end PointOfFocus.Ranking
