import PointOfFocus.Proofs.Query.Limit
import PointOfFocus.Proofs.Template.Recommendation

/-!
# The limit of the text of a recommendation query

A recommendation query ends with a limit of its own. Setting another one replaces its number, and it changes the patterns and
the filters of the query only where these have a limit clause inside (`putClause_recommendationText`). Each piece of the text
is replaced for itself, since it ends in a character that no clause has.
-/

namespace PointOfFocus.Query

open PointOfFocus.Number (integerText)
open PointOfFocus.Template (patternLine filterText recommendationText render_parts)
open PointOfFocus.Text

/-! ### Replacing piece by piece -/

/-- Replacing the clauses turns the first text into the second one, whatever comes after it. -/
def Becomes (n : Nat) (text changed : String) : Prop :=
  ∀ rest, replaceClauses (limitClause n.repr) false (text.toList ++ rest) =
    changed.toList ++ replaceClauses (limitClause n.repr) false rest

section

variable {n : Nat} {first second text changed : String} {d : Char}

private theorem becomes_empty (n : Nat) : Becomes n "" "" := fun _ => rfl

private theorem Becomes.append {first' second' : String} (h₁ : Becomes n first first') (h₂ : Becomes n second second') :
    Becomes n (first ++ second) (first' ++ second') := by
  intro rest
  rw [String.toList_append, String.toList_append, List.append_assoc, List.append_assoc, h₁, h₂]

/-- No clause starts with the character. -/
private theorem becomes_singleton (n : Nat) (hd : isWord d = false) :
    Becomes n (String.singleton d) (String.singleton d) := by
  intro rest
  rw [String.toList_singleton, List.singleton_append, replaceClauses_of_none (afterClause?_head hd), hd,
    List.singleton_append]

/-- No clause goes on over the character at the end. -/
private theorem becomes_of_end (hword : isWord d = false) (hblank : isBlank d = false)
    (h : replaceClauses (limitClause n.repr) false text.toList = changed.toList) :
    Becomes n (text ++ String.singleton d) (changed ++ String.singleton d) := by
  intro rest
  have hbreaks : Breaks d rest := ⟨hword, fun _ _ h => absurd h (by simp [hblank])⟩
  rw [String.toList_append, String.toList_append, String.toList_singleton, List.append_assoc, List.singleton_append,
    replaceClauses_append_cons hbreaks, h, List.append_assoc, List.singleton_append]

private theorem becomes_of_hasClause (n : Nat) (hword : isWord d = false) (hblank : isBlank d = false)
    (h : hasClause false text.toList = false) : Becomes n (text ++ String.singleton d) (text ++ String.singleton d) :=
  becomes_of_end hword hblank (replaceClauses_of_hasClause h)

end

/-! ### Quoted texts -/

/-- No clause starts with the character after a backslash. -/
private theorem isLetter_of_escape : ∀ e ∈ ['\\', '"', 'n', 'r'], isLetter 'l' e = false := by decide

private theorem escape_of_plain {cs : List Char} (h : ∀ c ∈ cs, escapeChar c = [c]) : escape cs = cs := by
  induction cs with
  | nil => rfl
  | cons c cs ih =>
    obtain ⟨hc, hcs⟩ := List.forall_mem_cons.1 h
    rw [escape_cons, hc, ih hcs, List.singleton_append]

private theorem escape_append (cs ds : List Char) : escape (cs ++ ds) = escape cs ++ escape ds := List.flatMap_append

theorem mem_digits_of_isDigit {c : Char} (h : c.isDigit = true) : c ∈ "0123456789".toList := by
  have hall : ∀ d : Fin 10, Char.ofNat (48 + d) ∈ "0123456789".toList := by decide
  have hrange : 48 ≤ c.toNat ∧ c.toNat ≤ 57 := by
    simp only [Char.isDigit, Bool.and_eq_true, decide_eq_true_eq, ge_iff_le, UInt32.le_iff_toNat_le] at h
    exact h
  have hmem := hall ⟨c.toNat - 48, by omega⟩
  rwa [show 48 + (c.toNat - 48) = c.toNat by omega, Char.ofNat_toNat] at hmem

private theorem escape_limitClause (n : Nat) : escape (limitClause n.repr) = limitClause n.repr := by
  have hplain : ∀ c ∈ "LIMIT ".toList ++ "0123456789".toList, escapeChar c = [c] := by decide
  refine escape_of_plain fun c hc => hplain c ?_
  rcases List.mem_append.1 hc with hc | hc
  · exact List.mem_append_left _ hc
  · exact List.mem_append_right _ (mem_digits_of_isDigit (isDigit_of_mem_repr hc))

/-- The start of an escaped text that has no backslash stands for itself. -/
private theorem eq_append_of_escape {cs start rest : List Char} (h : escape cs = start ++ rest)
    (hstart : '\\' ∉ start) : ∃ left, cs = start ++ left ∧ rest = escape left := by
  induction start generalizing cs with
  | nil => exact ⟨cs, rfl, h.symm⟩
  | cons d start ih =>
    rw [List.mem_cons, not_or] at hstart
    cases cs with
    | nil => cases h
    | cons c cs =>
      rcases escapeChar_cases c with ⟨hescape, -⟩ | ⟨e, hescape, -⟩
      · rw [escape_cons, hescape, List.singleton_append] at h
        obtain ⟨rfl, hmore⟩ := List.cons.inj h
        obtain ⟨left, rfl, hrest⟩ := ih hmore hstart.2
        exact ⟨left, rfl, hrest⟩
      · rw [escape_cons, hescape] at h
        exact absurd (List.cons.inj h).1 hstart.1

private theorem IsClause.notMem_backslash {word blanks digits : List Char} (h : IsClause word blanks digits) :
    '\\' ∉ word ++ (blanks ++ digits) := by
  have hword := isWord_of_mem_marks '\\' (by decide)
  have hblank : isBlank '\\' = false := by decide
  simp only [List.mem_append, not_or]
  refine ⟨fun hmem => ?_, fun hmem => ?_, fun hmem => ?_⟩
  · rw [h.isWord_word _ hmem] at hword
    cases hword
  · rw [h.isBlank_blanks _ hmem] at hblank
    cases hblank
  · rw [h.isWord_digits _ hmem] at hword
    cases hword

/-- Replacing the clauses of an escaped text gives an escaped text, which is not empty if the first one was not. -/
private theorem exists_escape (n : Nat) (cs : List Char) (inWord : Bool) :
    ∃ changed, replaceClauses (limitClause n.repr) inWord (escape cs) = escape changed ∧ (cs ≠ [] → changed ≠ []) := by
  induction hlength : cs.length using Nat.strong_induction_on generalizing cs inWord with
  | h length ih =>
    subst hlength
    cases cs with
    | nil => exact ⟨[], by rw [escape, List.flatMap_nil, replaceClauses], id⟩
    | cons c cs =>
      rcases escapeChar_cases c with ⟨hescape, -⟩ | ⟨e, hescape, he, -⟩
      · -- a character that stands for itself may start a clause, which holds no escape
        rw [escape_cons, hescape, List.singleton_append]
        cases hfound : afterClause? inWord (c :: escape cs) with
        | none =>
          obtain ⟨changed, hchanged, -⟩ := ih cs.length (by simp) cs (isWord c) rfl
          refine ⟨c :: changed, ?_, fun _ => by simp⟩
          rw [replaceClauses_of_none hfound, hchanged, escape_cons, hescape, List.singleton_append]
        | some rest =>
          obtain ⟨-, word, blanks, digits, hcs, hclause, -⟩ := afterClause?_eq_some_iff.1 hfound
          have hsplit : escape (c :: cs) = word ++ (blanks ++ digits) ++ rest := by
            rw [escape_cons, hescape, List.singleton_append, hcs]
            simp
          obtain ⟨left, hleft, rfl⟩ := eq_append_of_escape hsplit hclause.notMem_backslash
          have hshort : left.length < (c :: cs).length := by
            have hdigits := List.length_pos_of_ne_nil hclause.digits_ne
            rw [hleft]
            simp only [List.length_append]
            omega
          obtain ⟨changed, hchanged, -⟩ := ih left.length hshort left true rfl
          refine ⟨limitClause n.repr ++ changed, ?_, fun _ => by simp [limitClause_eq]⟩
          rw [replaceClauses_of_some hfound, hchanged, escape_append, escape_limitClause]
      · -- Neither the backslash of an escape nor the character behind it starts a clause.
        obtain ⟨changed, hchanged, -⟩ := ih cs.length (by simp) cs (isWord e) rfl
        have hback := isWord_of_mem_marks '\\' (by decide)
        have hnone : afterClause? false (e :: escape cs) = none := by
          simp [afterClause?, afterWord?, isLetter_of_escape e he]
        refine ⟨c :: changed, ?_, fun _ => by simp⟩
        rw [escape_cons, hescape, List.cons_append, List.singleton_append, replaceClauses_of_none (afterClause?_head hback),
          hback, replaceClauses_of_none hnone, hchanged, escape_cons, hescape, List.cons_append, List.singleton_append]

/-! ### The pieces of a recommendation query -/

/-- A filter stays a filter, if there is one. -/
private theorem becomes_filterText {n : Nat} {before after : String} (hbefore : Becomes n before before)
    (hafter : Becomes n after after) (text : Option String) :
    ∃ changed, Becomes n (filterText before ("\"" ++ after) text) (filterText before ("\"" ++ after) changed) := by
  unfold filterText
  split
  next t =>
    split
    next hempty => exact ⟨none, becomes_empty n⟩
    next hne =>
      obtain ⟨changed, hchanged, hfilled⟩ := exists_escape n t.toList false
      have hquoted : Becomes n (String.ofList (escape t.toList) ++ "\"") (String.ofList (escape changed) ++ "\"") := by
        refine becomes_of_end (d := '"') (isWord_of_mem_marks _ (by decide)) (by decide) ?_
        rw [String.toList_ofList, String.toList_ofList, hchanged]
      refine ⟨some (String.ofList changed), ?_⟩
      have hsome : String.ofList changed ≠ "" := by
        intro hnil
        have hchars := congrArg String.toList hnil
        rw [String.toList_ofList] at hchars
        refine hfilled (fun h => hne ?_) hchars
        exact String.toList_inj.1 h
      have hall := hbefore.append (hquoted.append hafter)
      dsimp only
      rw [if_neg hsome, String.toList_ofList]
      simpa only [String.append_assoc] using hall
  · exact ⟨none, becomes_empty n⟩

/-- A line of a pattern stays as it is if its terms do. -/
private theorem becomes_patternLine {n : Nat} {p : Pattern} {line : String} (h : p.render = .ok line)
    (hline : replaceClauses (limitClause n.repr) false line.toList = line.toList) :
    Becomes n (patternLine line) (patternLine line) := by
  obtain ⟨s, q, o, -, -, -, rfl⟩ := render_parts h
  have hdot := isWord_of_mem_marks '.' (by decide)
  have hblank : isBlank '.' = false := by decide
  have htext : s ++ " " ++ q ++ " " ++ o ++ " ." = s ++ " " ++ q ++ " " ++ o ++ " " ++ String.singleton '.' := by
    simp [String.ext_iff]
  have hterms : replaceClauses (limitClause n.repr) false (s ++ " " ++ q ++ " " ++ o ++ " ").toList =
      (s ++ " " ++ q ++ " " ++ o ++ " ").toList := by
    have hbreaks : Breaks '.' [] := ⟨hdot, fun _ hc => by cases hc⟩
    rw [htext, String.toList_append, String.toList_singleton, replaceClauses_append_cons hbreaks, replaceClauses] at hline
    exact List.append_cancel_right hline
  have hspace := becomes_singleton n (d := ' ') (isWord_of_mem_marks _ (by decide))
  have hnewline := becomes_singleton n (d := '\n') (isWord_of_mem_marks _ (by decide))
  have hall := ((hspace.append hspace).append (becomes_of_end hdot hblank hterms)).append hnewline
  rw [patternLine, htext]
  exact hall

theorem forall₂_of_mapM {ps : List Pattern} {written : List String} (h : ps.mapM Pattern.render = .ok written) :
    List.Forall₂ (fun p line => p.render = .ok line) ps written := by
  induction ps generalizing written with
  | nil =>
    obtain rfl := Except.ok.inj h
    exact .nil
  | cons p ps ih =>
    rw [List.mapM_cons] at h
    cases hp : p.render with
    | error e => rw [hp] at h; cases h
    | ok line =>
      cases hps : ps.mapM Pattern.render with
      | error e => rw [hp, hps] at h; cases h
      | ok lines =>
        rw [hp, hps] at h
        obtain rfl := Except.ok.inj h
        exact .cons hp (ih hps)

private theorem becomes_patternLines {n : Nat} {ps : List Pattern} {written : List String}
    (hwritten : List.Forall₂ (fun p line => p.render = .ok line) ps written) (hlines : ∀ p ∈ ps, ∀ line,
      p.render = .ok line → replaceClauses (limitClause n.repr) false line.toList = line.toList) :
    Becomes n (String.join (written.map patternLine)) (String.join (written.map patternLine)) := by
  induction hwritten with
  | nil => exact becomes_empty n
  | @cons p line ps written hp _ ih =>
    obtain ⟨hline, hlines⟩ := List.forall_mem_cons.1 hlines
    rw [List.map_cons, String.join_cons]
    exact (becomes_patternLine hp (hline line hp)).append (ih hlines)

/-- A clause has an `m`. -/
private theorem hasClause_of_noLetter {inWord : Bool} {cs : List Char} (h : ∀ c ∈ cs, isLetter 'm' c = false) :
    hasClause inWord cs = false := by
  rw [Bool.eq_false_iff, ne_eq, hasClause_iff]
  rintro ⟨digits, before, word, blanks, after, rfl, hclause, -⟩
  obtain ⟨l, i, m, i', t, rfl, -, -, hm, -⟩ := hclause.word_eq
  have hnone := h m (by simp)
  rw [hm] at hnone
  cases hnone

private theorem forall_mem_intercalate {p : Char → Prop} {between : String} {texts : List String}
    (hbetween : ∀ c ∈ between.toList, p c)
    (htexts : ∀ text ∈ texts, ∀ c ∈ text.toList, p c) : ∀ c ∈ (between.intercalate texts).toList, p c := by
  induction texts with
  | nil => simp
  | cons text texts ih =>
    obtain ⟨htext, htexts⟩ := List.forall_mem_cons.1 htexts
    by_cases hlast : texts = []
    · simpa [hlast] using htext
    · intro c hc
      rw [String.intercalate_cons_of_ne_nil hlast, String.toList_append, String.toList_append, List.mem_append,
        List.mem_append] at hc
      rcases hc with (hc | hc) | hc
      · exact htext c hc
      · exact hbetween c hc
      · exact ih htexts c hc

private theorem pathProjection_noLetter (length : Int) :
    ∀ c ∈ (pathProjection length).toList, isLetter 'm' c = false := by
  have hfixed : ∀ c ∈ "(concat( as ?POF)\"<\", ?POF, \">\", \" / \", ".toList, isLetter 'm' c = false := by decide
  have hinside {text : String} (h : ∀ c ∈ text.toList, c ∈ "(concat( as ?POF)\"<\", ?POF, \">\", \" / \", ".toList) :
      ∀ c ∈ text.toList, isLetter 'm' c = false := fun c hc => hfixed c (h c hc)
  have hhops : ∀ hop ∈ (countTo length).map fun i => "\"<\", ?POF" ++ integerText i ++ ", \">\"",
      ∀ c ∈ hop.toList, isLetter 'm' c = false := by
    intro hop hmem c hc
    obtain ⟨i, hi, rfl⟩ := List.mem_map.1 hmem
    obtain ⟨k, -, rfl⟩ := List.mem_map.1 hi
    simp only [String.toList_append, List.mem_append] at hc
    rcases hc with (hc | hc) | hc
    · exact hinside (by decide) c hc
    · exact isLetter_of_isDigit (isDigit_of_mem_toDigits (Nat.toList_repr ▸ hc)) (by decide)
    · exact hinside (by decide) c hc
  intro c hc
  simp only [pathProjection, String.toList_append, List.mem_append] at hc
  rcases hc with (hc | hc) | hc
  · exact hinside (by decide) c hc
  · exact forall_mem_intercalate (hinside (by decide)) hhops c hc
  · exact hinside (by decide) c hc

/-- What stands before the patterns of a recommendation query has no clause. -/
private theorem becomes_start (n : Nat) {projection : String} (h : ∀ c ∈ projection.toList, isLetter 'm' c = false) :
    Becomes n ("SELECT DISTINCT " ++ projection ++ "\nWHERE \x7b\n") ("SELECT DISTINCT " ++ projection ++ "\nWHERE \x7b\n") := by
  have hstart : ∀ c ∈ "SELECT DISTINCT ".toList, isLetter 'm' c = false := by decide
  have hwhere : ∀ c ∈ "\nWHERE ".toList, isLetter 'm' c = false := by decide
  have hall : ∀ c ∈ ("SELECT DISTINCT " ++ projection ++ "\nWHERE ").toList, isLetter 'm' c = false := by
    intro c hc
    simp only [String.toList_append, List.mem_append] at hc
    rcases hc with (hc | hc) | hc
    · exact hstart c hc
    · exact h c hc
    · exact hwhere c hc
  have hopen := becomes_of_hasClause n (d := '\x7b') (isWord_of_mem_marks _ (by decide)) (by decide) (hasClause_of_noLetter hall)
  have hline := hopen.append (becomes_singleton n (d := '\n') (isWord_of_mem_marks _ (by decide)))
  simpa [String.append_assoc] using hline

/-- The text before the quoted part of a filter. -/
private theorem becomes_filterStart (n : Nat) (start : String) (h : hasClause false start.toList = false) :
    Becomes n (start ++ "\"") (start ++ "\"") :=
  becomes_of_hasClause n (d := '"') (isWord_of_mem_marks _ (by decide)) (by decide) h

/-- The text after the quoted part of a filter. -/
private theorem becomes_filterEnd (n : Nat) (flags : String) (h : hasClause false flags.toList = false) :
    Becomes n (flags ++ ")" ++ "\n") (flags ++ ")" ++ "\n") :=
  (becomes_of_hasClause n (d := ')') (isWord_of_mem_marks _ (by decide)) (by decide) h).append
    (becomes_singleton n (d := '\n') (isWord_of_mem_marks _ (by decide)))

/-- The clause at the end of a recommendation query is replaced. -/
private theorem becomes_ending (n : Nat) : Becomes n ("\x7d" ++ ("\n" ++ ("LIMIT 10" ++ "\n")))
    ("\x7d" ++ ("\n" ++ ("LIMIT" ++ (" " ++ (n.repr ++ "\n"))))) := by
  have hnewline := becomes_singleton n (d := '\n') (isWord_of_mem_marks _ (by decide))
  have hclause : Becomes n ("LIMIT 10" ++ "\n") ("LIMIT" ++ (" " ++ (n.repr ++ "\n"))) := by
    intro rest
    have hfound : afterClause? false (limitClause "10" ++ '\n' :: rest) = some ('\n' :: rest) :=
      afterClause?_limitClause 10 (isWord_of_mem_marks '\n' (by decide))
    have hold : ("LIMIT 10" ++ "\n").toList ++ rest = limitClause "10" ++ '\n' :: rest := rfl
    have hnew : ("LIMIT" ++ (" " ++ (n.repr ++ "\n"))).toList = limitClause n.repr ++ ['\n'] := by
      simp [limitClause_eq]
    have hline := isWord_of_mem_marks '\n' (by decide)
    rw [hold, hnew, replaceClauses_of_some hfound, replaceClauses_of_none (afterClause?_head hline), hline,
      List.append_assoc, List.singleton_append]
  exact (becomes_singleton n (d := '\x7d') (isWord_of_mem_marks _ (by decide))).append (hnewline.append hclause)

private theorem hasClause_recommendationText (s : Scope) (written : List String) :
    hasClause false (recommendationText s written).toList = true := by
  have hbreaks : Breaks '\n' ('L' :: "IMIT 10\n".toList) := by
    refine ⟨isWord_of_mem_marks '\n' (by decide), fun c hc _ => ?_⟩
    rw [← Option.some.inj hc]
    decide
  have hclause : hasClause false ('L' :: "IMIT 10\n".toList) = true := by decide +kernel
  have hending : "\x7d\nLIMIT 10\n".toList = ['\x7d'] ++ '\n' :: 'L' :: "IMIT 10\n".toList := by decide
  unfold recommendationText
  rw [String.toList_append, hending, ← List.append_assoc, hasClause_append_cons hbreaks, hclause, Bool.or_true]

/-- Setting the limit of a recommendation query whose patterns stay as they are changes its last line, and no more than the
texts of its filters. -/
theorem putClause_recommendationText {n : Nat} {s : Scope} {written : List String}
    (hprojection : s.projection = defaultProjection ∨ ∃ length, s.projection = pathProjection length)
    (hwritten : s.patterns.mapM Pattern.render = .ok written) (hlines : ∀ p ∈ s.patterns, ∀ line, p.render = .ok line →
      replaceClauses (limitClause n.repr) false line.toList = line.toList) :
    ∃ keyword iriStart, putClause (limitClause n.repr) (recommendationText s written).toList =
      ("SELECT DISTINCT " ++ s.projection ++ "\nWHERE \x7b\n" ++ String.join (written.map patternLine) ++
        filterText "  FILTER regex(?POF, \"" "\", \"i\")\n" keyword ++
        filterText "  FILTER strstarts(str(?POF), \"" "\")\n" iriStart ++
        ("\x7d" ++ ("\n" ++ ("LIMIT" ++ (" " ++ (n.repr ++ "\n")))))).toList := by
  have hletters : ∀ c ∈ s.projection.toList, isLetter 'm' c = false := by
    have hfocus : ∀ c ∈ defaultProjection.toList, isLetter 'm' c = false := by decide
    rcases hprojection with h | ⟨length, h⟩
    · rwa [h]
    · rw [h]
      exact pathProjection_noLetter length
  obtain ⟨keyword, hkeyword⟩ := becomes_filterText (becomes_filterStart n "  FILTER regex(?POF, " (by decide +kernel))
    (becomes_filterEnd n ", \"i\"" (by decide +kernel)) s.keyword
  obtain ⟨iriStart, hiriStart⟩ := becomes_filterText
    (becomes_filterStart n "  FILTER strstarts(str(?POF), " (by decide +kernel))
    (becomes_filterEnd n "" (by decide +kernel)) s.iriStart
  have hending : "\x7d" ++ ("\n" ++ ("LIMIT 10" ++ "\n")) = "\x7d\nLIMIT 10\n" := by decide
  have hregex : "\"" ++ (", \"i\"" ++ ")" ++ "\n") = "\", \"i\")\n" := by decide
  have hstarts : "\"" ++ ("" ++ ")" ++ "\n") = "\")\n" := by decide
  have hlast := becomes_ending n
  rw [hregex] at hkeyword
  rw [hstarts] at hiriStart
  rw [hending] at hlast
  have hlines := (becomes_start n hletters).append (becomes_patternLines (forall₂_of_mapM hwritten) hlines)
  -- The four parts are changed one by one, and no clause reaches over a line end.
  have hall := ((hlines.append hkeyword).append hiriStart).append hlast []
  rw [List.append_nil, replaceClauses, List.append_nil] at hall
  refine ⟨keyword, iriStart, ?_⟩
  rw [putClause, if_pos (hasClause_recommendationText s written)]
  unfold recommendationText
  exact hall

end PointOfFocus.Query
