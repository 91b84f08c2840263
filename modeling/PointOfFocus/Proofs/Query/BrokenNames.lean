import PointOfFocus.Proofs.Query.Limit
import PointOfFocus.Proofs.Query.LineReading

/-!
# Names that are cut into several tokens

A name that is made of word characters need not be the name of a variable, since not every word character may stand in
one. After a question mark such a name is cut into a shorter variable and other tokens, and the parser stops at the
first of these (`unreadable_of_name`).
-/

namespace PointOfFocus.Query

open PointOfFocus.Text
open Phrase

/-- The character may stand in the name of a variable or in a word. -/
def IsNameChar (c : Char) : Prop := isVarChar c = true ∨ isWord c = true

/-- Marks that stand in no name. -/
def nameEnds : List Char := [' ', '#', '<', '"', '\'', '?', '$', '@', '.', ':', '^', '/', '+', '-']

private theorem IsNameChar.notMem {c : Char} (h : IsNameChar c) : c ∉ nameEnds := by
  have hvars : ∀ d ∈ nameEnds, isVarChar d = false := by decide
  have hmarks : ∀ d ∈ nameEnds, d ∈ marks := by decide
  intro hc
  have hvar := hvars c hc
  have hword := isWord_of_mem_marks c (hmarks c hc)
  rcases h with h | h
  · rw [hvar] at h
    cases h
  · rw [hword] at h
    cases h

/-! ### Tokens in a run of word characters -/

section

variable {run rest : List Char}

private theorem takeWhile_space {p : Char → Bool} (hp : p ' ' = false) :
    (run ++ ' ' :: rest).takeWhile p = run.takeWhile p := by
  induction run with
  | nil => simp [hp]
  | cons c run ih => cases hc : p c <;> simp [hc, ih]

private theorem dropWhile_space {p : Char → Bool} (hp : p ' ' = false) :
    (run ++ ' ' :: rest).dropWhile p = run.dropWhile p ++ ' ' :: rest := by
  induction run with
  | nil => simp [hp]
  | cons c run ih => cases hc : p c <;> simp [hc, ih]

private theorem drop_takeWhile_space {p : Char → Bool} (hp : p ' ' = false) :
    (run ++ ' ' :: rest).drop (run.takeWhile p).length = run.dropWhile p ++ ' ' :: rest := by
  rw [← takeWhile_space hp, drop_takeWhile, dropWhile_space hp]

private theorem integer?_nameRun {n : Nat} (h : integer? (run ++ ' ' :: rest) = some n) : n ≤ run.length := by
  have hspace : isDigit ' ' = false := by decide
  have hle := (List.takeWhile_prefix isDigit (l := run)).length_le
  rw [integer?, takeWhile_space hspace, runLength?] at h
  split at h
  · cases h
  · have := Option.some.inj h
    omega

private theorem word?_nameRun {n : Nat} (h : word? (run ++ ' ' :: rest) = some n) : n ≤ run.length := by
  have hspace := (delimiters_outside ' ' (by decide)).2.2.2
  cases run with
  | nil =>
    have hstart : isWordStart ' ' = false := by simp [isWordStart, isWord_of_mem_marks ' ' (by decide)]
    simp [word?, hstart] at h
  | cons c cs =>
    have hle := (List.takeWhile_prefix (fun c => isWord c || decide (c = '-')) (l := cs)).length_le
    simp only [List.cons_append, word?, takeWhile_space (p := fun c => isWord c || decide (c = '-')) hspace] at h
    rw [List.length_cons]
    split at h
    · have := Option.some.inj h
      omega
    · cases h

private theorem dropWhile_names {p : Char → Bool} (hrun : ∀ c ∈ run, IsNameChar c) :
    ∀ c ∈ run.dropWhile p, IsNameChar c :=
  fun c hc => hrun c ((List.dropWhile_suffix p).subset hc)

variable (hrun : ∀ c ∈ run, IsNameChar c)

include hrun

private theorem head_nameRun (rest : List Char) {d : Char} (hd : d ∈ nameEnds) (hspace : d ≠ ' ') :
    (run ++ ' ' :: rest).head? ≠ some d := by
  cases run with
  | nil => simpa using hspace.symm
  | cons c run =>
    intro h
    exact (hrun d (by simp [Option.some.inj h])).notMem hd

private theorem prefixedName?_nameRun (rest : List Char) : prefixedName? (run ++ ' ' :: rest) = none := by
  have hspace := (delimiters_outside ' ' (by decide)).1
  have hcolon := head_nameRun (dropWhile_names (p := isLabelChar) hrun) rest (d := ':') (by decide) (by decide)
  simp only [prefixedName?, takeWhile_space hspace, drop_takeWhile_space hspace]
  split
  next heq =>
    rw [heq] at hcolon
    exact absurd rfl hcolon
  · rfl

private theorem decimal?_nameRun (rest : List Char) : decimal? (run ++ ' ' :: rest) = none := by
  have hspace : isDigit ' ' = false := by decide
  have hdot := head_nameRun (dropWhile_names (p := isDigit) hrun) rest (d := '.') (by decide) (by decide)
  simp only [decimal?, digitCount, takeWhile_space hspace, drop_takeWhile_space hspace]
  split
  next heq =>
    rw [heq] at hdot
    exact absurd rfl hdot
  · rfl

private theorem mantissa?_nameRun {n : Nat} (h : mantissa? (run ++ ' ' :: rest) = some n) :
    n = (run.takeWhile isDigit).length := by
  have hspace : isDigit ' ' = false := by decide
  have hdot := head_nameRun (dropWhile_names (p := isDigit) hrun) rest (d := '.') (by decide) (by decide)
  simp only [mantissa?, digitCount, takeWhile_space hspace, drop_takeWhile_space hspace] at h
  split at h
  next heq =>
    rw [heq] at hdot
    exact absurd rfl hdot
  · split at h
    · cases h
    · exact (Option.some.inj h).symm

private theorem exponentLength?_nameRun {n : Nat} (h : exponentLength? (run ++ ' ' :: rest) = some n) :
    n ≤ run.length := by
  have hspace : isDigit ' ' = false := by decide
  cases run with
  | nil => simp [exponentLength?] at h
  | cons c cs =>
    obtain ⟨-, hcs⟩ := List.forall_mem_cons.1 hrun
    have hplus := head_nameRun hcs rest (d := '+') (by decide) (by decide)
    have hminus := head_nameRun hcs rest (d := '-') (by decide) (by decide)
    have hle := (List.takeWhile_prefix isDigit (l := cs)).length_le
    simp only [List.cons_append, exponentLength?, hplus, hminus, decide_false, Bool.or_self, Bool.false_eq_true, ↓reduceIte,
      List.drop_zero, digitCount, takeWhile_space hspace] at h
    rw [List.length_cons]
    split at h
    · split at h
      · cases h
      · have := Option.some.inj h
        omega
    · cases h

private theorem double?_nameRun {n : Nat} (h : double? (run ++ ' ' :: rest) = some n) : n ≤ run.length := by
  have hspace : isDigit ' ' = false := by decide
  obtain ⟨mantissa, hmantissa, hrest⟩ := Option.bind_eq_some_iff.1 h
  obtain ⟨exponent, hexponent, hn⟩ := Option.bind_eq_some_iff.1 hrest
  rw [mantissa?_nameRun hrun hmantissa, drop_takeWhile_space hspace] at hexponent
  have hle := exponentLength?_nameRun (dropWhile_names hrun) hexponent
  have hlength := congrArg List.length (List.takeWhile_append_dropWhile (p := isDigit) (l := run))
  have hsum : mantissa + exponent = n := Option.some.inj hn
  rw [List.length_append, ← mantissa?_nameRun hrun hmantissa] at hlength
  omega

end

/-- A character that stands in words but not in variables starts a number or a word that ends within the run. -/
private theorem lexeme?_nameRun {z : Char} {v rest : List Char} (hz : isWord z = true) (hvar : isVarChar z = false)
    (hrun : ∀ c ∈ v, IsNameChar c) {lexeme : Lexeme} {n : Nat} (h : lexeme? (z :: v ++ ' ' :: rest) = some (lexeme, n)) :
    (∃ kind ∈ [Kind.double, .integer, .word], lexeme = .token kind) ∧ n ≤ (z :: v).length := by
  have hname : IsNameChar z := .inr hz
  have hall : ∀ c ∈ z :: v, IsNameChar c := List.forall_mem_cons.2 ⟨hname, hrun⟩
  have hne {d : Char} (hd : d ∈ nameEnds) : z ≠ d := fun heq => hname.notMem (heq ▸ hd)
  have hblank : isBlank z = false := by
    rw [Bool.eq_false_iff]
    intro hblank
    rw [isWord_of_isBlank hblank] at hz
    cases hz
  have hlow : z ≠ '_' := by
    rintro rfl
    exact absurd hvar (by decide)
  have hsymbol : symbol? (z :: v ++ ' ' :: rest) = none := by
    have hfirst : ∀ x ∈ symbols, x.text.toList.head?.any (!isWord ·) = true := by decide +kernel
    refine List.find?_eq_none.2 fun x hx hprefix => ?_
    obtain ⟨d, hd, hword⟩ := (Option.any_eq_true _ _).1 (hfirst x hx)
    obtain ⟨cs, hcs⟩ := List.head?_eq_some_iff.1 hd
    rw [hcs, List.isPrefixOf_iff_prefix, List.cons_append] at hprefix
    obtain ⟨rfl, -⟩ := List.cons_prefix_cons.1 hprefix
    rw [hz] at hword
    cases hword
  have hprefixed := prefixedName?_nameRun hall rest
  have hdecimal := decimal?_nameRun hall rest
  have hmark : datatypeMark? (z :: v ++ ' ' :: rest) = none := by
    have hcaret := hne (d := '^') (by decide)
    simp [datatypeMark?, List.isPrefixOf, hcaret.symm]
  rw [List.cons_append] at h hsymbol hprefixed hdecimal hmark
  -- Every other rule fails at the first character.
  simp only [lexeme?, blanks?_none _ hblank, comment?_none _ (hne (d := '#') (by decide)),
    iri?_none _ (hne (d := '<') (by decide)), marker?_none _ (hne (d := '<') (by decide)),
    string?_none _ (hne (d := '"') (by decide)) (hne (d := '\'') (by decide)),
    var?_none _ (hne (d := '?') (by decide)) (hne (d := '$') (by decide)), blank?_none _ hlow, hprefixed,
    language?_none _ (hne (d := '@') (by decide)), hdecimal, hmark, hsymbol, Option.map_none, orElse_eq_some,
    Option.map_eq_some_iff, Prod.mk.injEq, reduceCtorEq, false_or, true_and, or_false, and_false] at h
  rcases h with ⟨_, h, rfl, rfl⟩ | ⟨-, ⟨_, h, rfl, rfl⟩ | ⟨-, _, h, rfl, rfl⟩⟩
  · exact ⟨⟨.double, by simp, rfl⟩, double?_nameRun hall h⟩
  · exact ⟨⟨.integer, by simp, rfl⟩, integer?_nameRun h⟩
  · exact ⟨⟨.word, by simp, rfl⟩, word?_nameRun h⟩

/-! ### What comes after a broken name -/

/-- A token that starts with another character is neither a point of focus nor a slash. -/
theorem lexeme?_plainStart {c : Char} {cs : List Char} {lexeme : Lexeme} {n : Nat}
    (h : lexeme? (c :: cs) = some (lexeme, n)) (hblank : isBlank c = false) (hc : c ∉ ['<', '/', '#']) :
    ∃ kind, lexeme = .token kind ∧ (∀ hint, kind ≠ .focus hint) ∧ kind ≠ .symbol .slash := by
  simp only [List.mem_cons, List.not_mem_nil, or_false, not_or] at hc
  cases lexeme with
  | gap =>
    rcases lexeme?_gap h with h | h
    · rw [blanks?_none cs hblank] at h
      cases h
    · rw [comment?_none cs hc.2.2] at h
      cases h
  | token kind =>
    refine ⟨kind, rfl, ?_, ?_⟩
    · rintro hint rfl
      have hrule : marker? (c :: cs) = some n := by
        simp [lexeme?] at h
        simp [h]
      obtain ⟨rest, hrest, -⟩ := marker?_eq hrule
      exact hc.1 (List.cons.inj hrest).1
    · rintro rfl
      have hrule : symbol? (c :: cs) = some .slash := by
        simp [lexeme?] at h
        simp [h]
      have hprefix := List.find?_some hrule
      rw [List.isPrefixOf_iff_prefix] at hprefix
      exact hc.2.1 (List.cons_prefix_cons.1 hprefix).1.symm

/-- The first token after such characters is neither a point of focus nor a slash. -/
private theorem head_of_plainStart {run rest : List Char} (hrun : ∀ c ∈ run, c ∉ ['<', '/', '#']) {offset : Nat}
    {all : List Token} (h : tokensFrom 0 offset (run ++ '?' :: rest) = .ok all) :
    ∃ y ∈ all.head?, y.isFocus = false ∧ y.kind ≠ .symbol .slash := by
  have hfound {c : Char} {cs : List Char} {offset : Nat} (hblank : isBlank c = false) (hc : c ∉ ['<', '/', '#'])
      (h : tokensFrom 0 offset (c :: cs) = .ok all) : ∃ y ∈ all.head?, y.isFocus = false ∧ y.kind ≠ .symbol .slash := by
    cases hlexeme : lexeme? (c :: cs) with
    | none =>
      rw [tokensFrom, hlexeme] at h
      cases h
    | some found =>
      obtain ⟨lexeme, n⟩ := found
      obtain ⟨kind, rfl, hfocus, hslash⟩ := lexeme?_plainStart hlexeme hblank hc
      obtain ⟨t, us, rfl, rfl, -⟩ := tokensFrom_head hlexeme h
      exact ⟨t, rfl, isFocus_of_kind hfocus, hslash⟩
  induction run generalizing offset with
  | nil => exact hfound (isBlank_of_start '?' (by decide)) (by decide) h
  | cons c run ih =>
    obtain ⟨hc, hrun⟩ := List.forall_mem_cons.1 hrun
    cases hblank : isBlank c with
    | false => exact hfound hblank hc h
    | true =>
      rw [List.cons_append, tokensFrom_blank hblank] at h
      exact ih hrun h


/-! ### Lines with a broken name -/

/-- A question mark before no name is a symbol. -/
private theorem lexeme?_question {rest : List Char} (h : ∀ c ∈ rest.head?, isVarChar c = false) :
    lexeme? ('?' :: rest) = some (.token (.symbol .question), 1) := by
  have hlabel : isLabelChar '?' = false := by simp [isLabelChar, isWord_of_mem_marks '?' (by decide)]
  have hdigit : isDigit '?' = false := by decide
  have hword : isWordStart '?' = false := by simp [isWordStart, isWord_of_mem_marks '?' (by decide)]
  have hvar : var? ('?' :: rest) = none := by
    cases rest with
    | nil => rfl
    | cons c rest => simp [var?, runLength?, h c rfl]
  have hsymbol : symbol? ('?' :: rest) = some .question := by
    simp [symbol?, symbols, Symbol.text, List.isPrefixOf]
  rw [lexeme?, blanks?_none _ (isBlank_of_start _ (by decide)), comment?_none _ (by decide), iri?_none _ (by decide),
    marker?_none _ (by decide), string?_none _ (by decide) (by decide), hvar, blank?_none _ (by decide),
    prefixedName?_none _ hlabel (by decide), language?_none _ (by decide), double?_none _ hdigit (by decide),
    decimal?_none _ hdigit (by decide), integer?_none _ hdigit, word?_none _ hword, hsymbol]
  rfl

private theorem exists_first_break {cs : List Char} (h : ∃ c ∈ cs, isVarChar c = false) :
    ∃ run z rest, cs = run ++ z :: rest ∧ (∀ c ∈ run, isVarChar c = true) ∧ isVarChar z = false := by
  obtain ⟨c, hc, hbad⟩ := h
  have hsplit := List.takeWhile_append_dropWhile (p := isVarChar) (l := cs)
  have hne : cs.dropWhile isVarChar ≠ [] := by
    intro hnil
    rw [hnil, List.append_nil] at hsplit
    rw [← hsplit] at hc
    rw [List.mem_takeWhile_imp hc] at hbad
    cases hbad
  refine ⟨cs.takeWhile isVarChar, (cs.dropWhile isVarChar).head hne, (cs.dropWhile isVarChar).tail, ?_,
    fun c hc => List.mem_takeWhile_imp hc, List.head_dropWhile_not isVarChar hne⟩
  rw [List.cons_head_tail, hsplit]

/-- A number or a word that starts with such a character is no predicate, and no point of focus behind it takes up what
stands before it. -/
private theorem unreadable_of_cut {run v : List Char} {z : Char} (hne : run ≠ []) (hrun : ∀ c ∈ run, isVarChar c = true)
    (hz : isWord z = true) (hvar : isVarChar z = false) (hv : ∀ c ∈ v, IsNameChar c) (more : String) :
    Unreadable ("  " ++ ("?" ++ String.ofList run) ++ (String.ofList (z :: v) ++ (" " ++ ("?" ++ more)))) := by
  intro rest offset all hall
  have htext : (String.ofList (z :: v) ++ (" " ++ ("?" ++ more))).toList ++ rest =
      z :: v ++ ' ' :: '?' :: (more.toList ++ rest) := by simp
  have hname : Writes (fun rest => ∀ c ∈ rest.head?, isVarChar c = false) ("?" ++ String.ofList run)
      (Atom.var '?' (String.ofList run)).pieces := by
    refine writes_token (by simp) (fun rest hrest => ?_) (by simp) fun _ _ => ⟨rfl, rfl⟩
    simpa using lexeme?_varRun hne hrun hrest
  rw [String.toList_append, List.append_assoc, htext] at hall
  obtain ⟨ts, us, rfl, hts, hfocus, hlater⟩ := (writes_indent.before hname).tokens_before (by simp [hvar]) hall
  -- The variable ends at the first character that its name cannot hold, and another token or none starts there.
  cases hlexeme : lexeme? (z :: v ++ ' ' :: '?' :: (more.toList ++ rest)) with
  | none =>
    rw [List.cons_append] at hlater hlexeme
    rw [tokensFrom, hlexeme] at hlater
    cases hlater
  | some found =>
    obtain ⟨lexeme, n⟩ := found
    obtain ⟨⟨kind, hkind, rfl⟩, hn⟩ := lexeme?_nameRun hz hvar hv hlexeme
    obtain ⟨u, us, rfl, rfl, htake, hrest⟩ := tokensFrom_head hlexeme hlater
    have hu : (Piece.exact u.kind u.text).Matches u := ⟨rfl, rfl⟩
    -- the second variable keeps a point of focus or a path length behind the line from reaching back into it
    have hnext : ∃ y ∈ us.head?, y.isFocus = false ∧ y.kind ≠ .symbol .slash := by
      have hdrop : (z :: v ++ ' ' :: '?' :: (more.toList ++ rest)).drop n =
          ((z :: v).drop n ++ [' ']) ++ '?' :: (more.toList ++ rest) := by
        rw [List.drop_append_of_le_length hn, List.append_assoc, List.singleton_append]
      rw [hdrop] at hrest
      refine head_of_plainStart (fun c hc => ?_) hrest
      rcases List.mem_append.1 hc with hc | hc
      · have hends : ∀ d ∈ ['<', '/', '#'], d ∈ nameEnds := by decide
        exact fun hmem => ((List.forall_mem_cons.2 ⟨.inr hz, hv⟩ : ∀ c ∈ z :: v, IsNameChar c) c
          (List.mem_of_mem_drop hc)).notMem (hends c hmem)
      · rw [List.mem_singleton.1 hc]
        decide
    refine ⟨(Atom.var '?' (String.ofList run)).pieces ++ [.exact u.kind u.text], ts ++ [u], us, by simp,
      List.rel_append hts (.cons hu .nil), forall_mem_append_isFocus hfocus ?_, .inr hnext, ?_⟩
    · refine List.forall_mem_singleton.2 (isFocus_of_kind fun hint hfocus => ?_)
      simp [hfocus] at hkind
    · -- nor is it the one word that can be a predicate
      have hword : u.text ≠ "a" := by
        obtain ⟨m, rfl⟩ := Nat.exists_eq_succ_of_ne_zero (Nat.pos_iff_ne_zero.1 (lexeme?_le hlexeme).1)
        intro htext
        have hfirst := congrArg (String.toList · |>.head?) (htake.symm.trans htext)
        obtain rfl : z = 'a' := by simpa using hfirst
        exact absurd hvar (by decide)
      refine stopsGroup_of_noVerb (a := .var '?' (String.ofList run)) trivial ⟨_, _, rfl, fun t ht => ?_⟩
      simp only [List.mem_cons, List.not_mem_nil, or_false] at hkind
      rcases hkind with hkind | hkind | hkind <;>
        simp [Token.EndsText, Token.startsVerb, ht.1, ht.2, hkind, hword]

/-- A line is not read where a name that is none of a variable stands after a question mark. -/
theorem unreadable_of_name {x : String} (hx : ∀ c ∈ x.toList, IsNameChar c) (hbad : ∃ c ∈ x.toList, isVarChar c = false)
    (more : String) : Unreadable ("  " ++ ("?" ++ x ++ (" " ++ ("?" ++ more)))) := by
  obtain ⟨run, z, v, hsplit, hrun, hz⟩ := exists_first_break hbad
  rw [hsplit] at hx
  obtain ⟨-, hzNames⟩ := List.forall_mem_append.1 hx
  obtain ⟨hzName, hv⟩ := List.forall_mem_cons.1 hzNames
  have hzWord : isWord z = true := hzName.resolve_left (by simp [hz])
  by_cases hne : run = []
  · subst hne
    refine unreadable_of_next writes_indent (fun _ => trivial) (by simp) fun rest lexeme n hlexeme => ?_
    have htext : ("?" ++ x ++ (" " ++ ("?" ++ more))).toList ++ rest =
        '?' :: (z :: v ++ (' ' :: '?' :: more.toList) ++ rest) := by simp [hsplit]
    rw [htext, lexeme?_question (by simp [hz])] at hlexeme
    obtain ⟨rfl, -⟩ := Prod.mk.inj (Option.some.inj hlexeme)
    exact ⟨_, rfl, by decide, by decide, by simp, fun text => stopsGroup_question text []⟩
  · have htext : "  " ++ ("?" ++ x ++ (" " ++ ("?" ++ more))) =
        "  " ++ ("?" ++ String.ofList run) ++ (String.ofList (z :: v) ++ (" " ++ ("?" ++ more))) := by
      simp [String.ext_iff, hsplit]
    rw [htext]
    exact unreadable_of_cut hne hrun hzWord hz hv more

end PointOfFocus.Query
