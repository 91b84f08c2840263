import PointOfFocus.Proofs.Query.BrokenNames

/-!
# Words before the point of focus

A word right before the point of focus becomes its keyword. The labels of prefixed names and of blank nodes may have dots
inside, but the rule for words knows no dots: a word with a dot inside is cut at its first dot, and the point of focus
takes up what comes last at most (`tokenize_word_iff`).
-/

namespace PointOfFocus.Query

open PointOfFocus.Text

/-! ### Cutting off the first word -/

/-- A character that starts a label starts neither another token nor a blank. -/
private theorem startsWord_of_isLabel {c : Char} {cs : List Char} (h : isLabel (c :: cs) = true) :
    startsWord c = true := by
  rw [isLabel, Bool.and_eq_true, Bool.and_eq_true, isWordStart, Bool.and_eq_true] at h
  obtain ⟨⟨⟨hword, hdigit⟩, hlow⟩, -⟩ := h
  have hne {d : Char} (hd : d ∈ marks) : c ≠ d := by
    rintro rfl
    rw [isWord_of_mem_marks _ hd] at hword
    cases hword
  have hblank : isBlank c = false := by
    rw [Bool.eq_false_iff]
    intro hblank
    rw [isWord_of_isBlank hblank] at hword
    cases hword
  simp only [startsWord, isWordStart, hblank, hword, hdigit, hlow, hne (d := '#') (by decide), hne (d := '<') (by decide),
    hne (d := '"') (by decide), hne (d := '\'') (by decide), hne (d := '?') (by decide), hne (d := '$') (by decide),
    hne (d := '@') (by decide), hne (d := '.') (by decide), ne_eq, not_false_eq_true, decide_true, Bool.not_false,
    Bool.and_self]

/-- Up to the first dot a label is a word. -/
private theorem takeWhile_word {w : List Char} (hw : ∀ c ∈ w, isLabelChar c = true) (rest : List Char) :
    (w ++ '<' :: rest).takeWhile (fun c => isWord c || decide (c = '-')) = w.takeWhile (· ≠ '.') := by
  have hangle := isWord_of_mem_marks '<' (by decide)
  have hmark := isWord_of_mem_marks '.' (by decide)
  induction w with
  | nil => simp [hangle]
  | cons c w ih =>
    obtain ⟨hc, hw⟩ := List.forall_mem_cons.1 hw
    rw [List.cons_append, List.takeWhile_cons, List.takeWhile_cons]
    by_cases hdot : c = '.'
    · simp [hdot, hmark]
    · have hinside : (isWord c || decide (c = '-')) = true := by simpa [isLabelChar, hdot] using hc
      simp only [hinside, ↓reduceIte, ih hw]
      simp [hdot]

private theorem prefixedName?_label {w : List Char} (hw : ∀ c ∈ w, isLabelChar c = true) (rest : List Char) :
    prefixedName? (w ++ '<' :: rest) = none := by
  have hmark : isLabelChar '<' = false := by simp [isLabelChar, isWord_of_mem_marks '<' (by decide)]
  have htake : (w ++ '<' :: rest).takeWhile isLabelChar = w := by
    rw [List.takeWhile_append_of_pos hw, List.takeWhile_cons_of_neg (by simp [hmark]), List.append_nil]
  simp only [prefixedName?, htake, List.drop_left]
  split
  next heq => cases (List.cons.inj heq).1
  · rfl

/-- The first token of a label before the point of focus is the word up to its first dot. -/
private theorem lexeme?_label {w : List Char} (hne : w ≠ []) (hlabel : isLabel w = true)
    (hw : ∀ c ∈ w, isLabelChar c = true) (rest : List Char) :
    lexeme? (w ++ '<' :: rest) = some (.token .word, (w.takeWhile (· ≠ '.')).length) := by
  cases w with
  | nil => exact absurd rfl hne
  | cons c cs =>
    have hname := prefixedName?_label hw rest
    have htake := takeWhile_word (List.forall_mem_cons.1 hw).2 rest
    have hstart := startsWord_of_isLabel hlabel
    have hdot : c ≠ '.' := by
      rintro rfl
      exact absurd hstart (by simp [startsWord])
    rw [List.cons_append] at hname ⊢
    rw [lexeme?_of_startsWord hstart hname, htake, List.takeWhile_cons_of_pos (by simpa using hdot), List.length_cons]

/-! ### Texts of which every part is cut out -/

private theorem lexeme?_isSome {cs : List Char} (h : (blanks? cs).isSome ∨ (marker? cs).isSome ∨ (integer? cs).isSome ∨
    (word? cs).isSome ∨ (symbol? cs).isSome) : (lexeme? cs).isSome = true := by
  rw [Option.isSome_iff_ne_none]
  intro hnone
  simp only [lexeme?, Option.orElse_eq_orElse, Option.orElse_eq_or, Option.or_eq_none_iff, Option.map_eq_none_iff] at hnone
  simp [hnone] at h

/-- Something starts with every character that may stand in a label, with the point of focus and with a blank. -/
private theorem lexeme?_isSome_of_char {c : Char} (h : isLabelChar c = true ∨ c = '<' ∨ isBlank c = true)
    (rest : List Char) : (lexeme? (c :: rest)).isSome = true := by
  have hsymbol {x : Symbol} (hx : x ∈ symbols) (htext : x.text.toList = [c]) : (symbol? (c :: rest)).isSome = true := by
    refine List.find?_isSome.2 ⟨x, hx, ?_⟩
    simp [htext, List.isPrefixOf]
  refine lexeme?_isSome ?_
  rcases h with h | rfl | hblank
  · rw [isLabelChar, Bool.or_eq_true, Bool.or_eq_true, decide_eq_true_eq, decide_eq_true_eq] at h
    rcases h with (hword | rfl) | rfl
    · cases hdigit : isDigit c with
      | true => exact .inr (.inr (.inl (by simp [integer?, runLength?, hdigit])))
      | false => exact .inr (.inr (.inr (.inl (by simp [word?, isWordStart, hword, hdigit]))))
    · exact .inr (.inr (.inr (.inr (hsymbol (x := .dot) (by decide) rfl))))
    · exact .inr (.inr (.inr (.inr (hsymbol (x := .minus) (by decide) rfl))))
  · exact .inr (.inl rfl)
  · exact .inl (by simp [blanks?, runLength?, hblank])

private theorem lexeme?_slash {c : Char} {cs : List Char} {n : Nat}
    (h : lexeme? (c :: cs) = some (.token (.symbol .slash), n)) : c = '/' := by
  have hrule : symbol? (c :: cs) = some .slash := by
    simp [lexeme?] at h
    simp [h]
  have hstarts := List.find?_some hrule
  rw [List.isPrefixOf_iff_prefix] at hstarts
  exact (List.cons_prefix_cons.1 hstarts).1.symm

/-- If something starts with every character of the text and no slash is among them, the text is cut into tokens of
which none is a slash. -/
private theorem tokensFrom_of_forall {cs : List Char}
    (h : ∀ c ∈ cs, c ≠ '/' ∧ ∀ rest, (lexeme? (c :: rest)).isSome = true)
    (skip offset : Nat) : ∃ ts, tokensFrom skip offset cs = .ok ts ∧ ∀ t ∈ ts, t.kind ≠ .symbol .slash := by
  fun_induction tokensFrom skip offset cs with
  | case1 => exact ⟨[], rfl, by simp⟩
  | case2 skip offset c cs ih => exact ih (List.forall_mem_cons.1 h).2
  | case3 offset c cs hnone =>
    have hsome := (List.forall_mem_cons.1 h).1.2 cs
    rw [hnone] at hsome
    cases hsome
  | case4 offset c cs length _ ih => exact ih (List.forall_mem_cons.1 h).2
  | case5 offset c cs kind length hfound ih =>
    obtain ⟨⟨hc, -⟩, hcs⟩ := List.forall_mem_cons.1 h
    obtain ⟨ts, hts, hslash⟩ := ih hcs
    refine ⟨_, by rw [hts]; rfl, List.forall_mem_cons.2 ⟨?_, hslash⟩⟩
    rintro rfl
    exact hc (lexeme?_slash hfound)

/-- Without a slash no path has a length, so every point of focus takes up its hint. -/
private theorem attachHints_of_noSlash {text : List Char} {found : List Token} (h : tokensFrom 0 0 text = .ok found)
    (hslash : ∀ t ∈ found, t.kind ≠ .symbol .slash) : ∃ ts, attachHints [] found = .ok ts := by
  have hspelled : ∀ t ∈ found, t.IsSpelled := tokensFrom_forall lexeme?_spelled h
  cases hattach : attachHints [] found with
  | ok ts => exact ⟨ts, rfl⟩
  | error e =>
    obtain ⟨n, -, hlong⟩ := (attachHints_faults rfl (by simp) hspelled).1 e hattach
    obtain ⟨before, number, slash, focus, after, rfl, -, hkind, -⟩ := longAhead_nil.1 hlong
    exact absurd hkind (hslash slash (by simp))

/-! ### Keywords -/

/-- The point of focus that takes up the whole word, and the end of the text. -/
def keywordTokens (w : List Char) : List Token :=
  [⟨.focus (.keyword (String.ofList w)), "<", 0, w.length + 1⟩, .eof (w.length + 2)]

section

variable {w : List Char} (hne : w ≠ []) (hlabel : isLabel w = true) (hw : ∀ c ∈ w, isLabelChar c = true)

include hne hlabel hw

/-- A word without a dot is one token, and the point of focus touches it. -/
private theorem tokenize_plainWord (hdot : '.' ∉ w) : tokenize (w ++ ['<', ' ']) = .ok (keywordTokens w) := by
  have hwhole : w.takeWhile (· ≠ '.') = w := List.takeWhile_eq_self_iff.2 fun c hc => by
    simpa using ne_of_mem_of_not_mem hc hdot
  have hword := lexeme?_label hne hlabel hw [' ']
  rw [hwhole] at hword
  have hmarker : lexeme? (['<'] ++ [' ']) = some (.token (.focus .none), ['<'].length) := by decide
  have hblank : tokensFrom 0 (w.length + 1) [' '] = .ok [] := tokensFrom_blank (by decide) [] _
  have hfound : tokensFrom 0 0 (w ++ ['<', ' ']) =
      .ok [⟨.word, String.ofList w, 0, w.length⟩, ⟨.focus .none, "<", w.length, w.length + 1⟩] := by
    have hcut := tokensFrom_cut (by simp) hmarker w.length
    rw [List.singleton_append, List.length_singleton, hblank] at hcut
    rw [tokensFrom_cut hne hword 0, Nat.zero_add, hcut]
    rfl
  have htaken : attachHints [] [⟨.word, String.ofList w, 0, w.length⟩, ⟨.focus .none, "<", w.length, w.length + 1⟩] =
      .ok [⟨.focus (.keyword (String.ofList w)), "<", 0, w.length + 1⟩] := by
    simp [attachHints, Token.isFocus, attachFocus, attachFocus.touching, Token.withHint, bind, Except.bind]
  have htokens : tokens (w ++ ['<', ' ']) = .ok [⟨.focus (.keyword (String.ofList w)), "<", 0, w.length + 1⟩] := by
    rw [tokens, hfound]
    exact htaken
  rw [tokenize, htokens, List.length_append]
  rfl

/-- A word with a dot inside is cut at its first dot, and no point of focus takes up what stands before that dot. -/
private theorem tokenize_dottedWord (hdot : '.' ∈ w) : ∃ later, tokenize (w ++ ['<', ' ']) =
    .ok (⟨.word, String.ofList (w.takeWhile (· ≠ '.')), 0, (w.takeWhile (· ≠ '.')).length⟩ :: later) := by
  -- Something starts with every character of the text, so it is cut into tokens as a whole.
  have hchars : ∀ c ∈ w ++ ['<', ' '], c ≠ '/' ∧ ∀ rest, (lexeme? (c :: rest)).isSome = true := by
    have hslash : isLabelChar '/' = false := by simp [isLabelChar, isWord_of_mem_marks '/' (by decide)]
    refine List.forall_mem_append.2 ⟨fun c hc => ⟨?_, lexeme?_isSome_of_char (.inl (hw c hc))⟩, ?_⟩
    · rintro rfl
      rw [hw _ hc] at hslash
      cases hslash
    · refine List.forall_mem_cons.2 ⟨⟨by decide, lexeme?_isSome_of_char (.inr (.inl rfl))⟩, ?_⟩
      exact List.forall_mem_singleton.2 ⟨by decide, lexeme?_isSome_of_char (.inr (.inr (by decide)))⟩
  obtain ⟨found, hfound, hslash⟩ := tokensFrom_of_forall hchars 0 0
  obtain ⟨ts, hts⟩ := attachHints_of_noSlash hfound hslash
  have htokens : tokenize (w ++ ['<', ' ']) = .ok (ts ++ [.eof (w ++ ['<', ' ']).length]) := by
    rw [tokenize, tokens, hfound]
    exact congrArg (· >>= fun ts => pure (ts ++ [Token.eof (w ++ ['<', ' ']).length])) hts
  obtain ⟨start, rest, rfl, hstart⟩ := List.eq_append_cons_of_mem hdot
  have htake : (start ++ '.' :: rest).takeWhile (· ≠ '.') = start := by
    rw [List.takeWhile_append_of_pos fun c hc => by simpa using ne_of_mem_of_not_mem hc hstart,
      List.takeWhile_cons_of_neg (by simp), List.append_nil]
  have hword := lexeme?_label hne hlabel hw [' ']
  have htext : start ++ '.' :: rest ++ ['<', ' '] = start ++ '.' :: (rest ++ ['<', ' ']) := by simp
  rw [htake] at hword ⊢
  rw [htext] at hword hfound
  have hpos := (lexeme?_le hword).1
  rw [tokensFrom_cut (List.ne_nil_of_length_pos hpos) hword] at hfound
  -- The token after the word starts with the dot, so neither is a point of focus and the second is no slash.
  obtain ⟨⟨lexeme, n⟩, hlexeme⟩ := Option.isSome_iff_exists.1 ((hchars '.' (by simp)).2 (rest ++ ['<', ' ']))
  obtain ⟨kind, rfl, hplain, hother⟩ := lexeme?_plainStart hlexeme (isBlank_of_start '.' (by decide)) (by decide)
  cases hlater : tokensFrom 0 (0 + start.length) ('.' :: (rest ++ ['<', ' '])) with
  | error e =>
    rw [hlater] at hfound
    cases hfound
  | ok us =>
    obtain ⟨y, us, rfl, rfl, -⟩ := tokensFrom_head hlexeme hlater
    rw [hlater] at hfound
    obtain rfl := Except.ok.inj hfound
    rw [Nat.zero_add] at hts
    have hfocus : ∀ t ∈ [⟨.word, String.ofList start, 0, start.length⟩, y], t.isFocus = false :=
      List.forall_mem_cons.2 ⟨rfl, List.forall_mem_singleton.2 (isFocus_of_kind hplain)⟩
    have hpassed := attachHints_append hfocus [] us
    have hshields : Shields [⟨.word, String.ofList start, 0, start.length⟩] [y] := .inr ⟨y, rfl, hother⟩
    obtain ⟨later, rfl⟩ := attachHints_shields hshields (hpassed.symm.trans hts)
    exact ⟨_, htokens⟩

/-- The point of focus takes up the whole word if and only if the word has no dot. With a dot the text is cut into tokens
too, of which the first is the word before the dot. -/
theorem tokenize_word_iff :
    (tokenize (w ++ ['<', ' ']) = .ok (keywordTokens w) ↔ '.' ∉ w) ∧
    ('.' ∈ w → ∃ later, tokenize (w ++ ['<', ' ']) =
      .ok (⟨.word, String.ofList (w.takeWhile (· ≠ '.')), 0, (w.takeWhile (· ≠ '.')).length⟩ :: later)) := by
  refine ⟨⟨fun htokens hdot => ?_, tokenize_plainWord hne hlabel hw⟩, tokenize_dottedWord hne hlabel hw⟩
  obtain ⟨later, hcut⟩ := tokenize_dottedWord hne hlabel hw hdot
  rw [htokens] at hcut
  cases Except.ok.inj hcut

end

/-- The point of focus does not take up the word `a.b`: the text starts with the word `a`. -/
theorem tokenize_word_dotted :
    (∀ c ∈ "a.b".toList, isLabelChar c = true) ∧ tokenize ("a.b".toList ++ ['<', ' ']) ≠ .ok (keywordTokens "a.b".toList) ∧
      ∃ later, tokenize ("a.b".toList ++ ['<', ' ']) = .ok (⟨.word, "a", 0, 1⟩ :: later) := by
  have hfirst := isWord_of_mem_letters 'a' (by decide)
  have hlast := isWord_of_mem_letters 'b' (by decide)
  have hdigit : isDigit 'a' = false := by decide
  have hlabel : isLabel "a.b".toList = true := by simp [isLabel, isWordStart, hfirst, hdigit]
  have hchars : ∀ c ∈ "a.b".toList, isLabelChar c = true := by simp [isLabelChar, hfirst, hlast]
  obtain ⟨hkeyword, hcut⟩ := tokenize_word_iff (by decide) hlabel hchars
  exact ⟨hchars, fun htokens => hkeyword.1 htokens (by decide), hcut (by decide)⟩

end PointOfFocus.Query
