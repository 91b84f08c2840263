import Mathlib.Data.List.DropRight
import PointOfFocus.Proofs.Query.Shape
import PointOfFocus.Proofs.Query.Stream
import PointOfFocus.Proofs.Text.Escape
import PointOfFocus.Proofs.Text.Letter

/-!
# Cutting out single tokens

What is written is cut into the tokens that it was written as. A token ends where it was ended: names and numbers before
a delimiter, texts before anything but a quote, and IRIs and most symbols before anything.
-/

namespace PointOfFocus.Query

open PointOfFocus.Text

/-! ### Classes of characters -/

/-- The characters that end a name, a word or a number. -/
def delimiters : List Char := [' ', '\n', '(', ')', ',']

/-- No delimiter belongs to a label, to a variable, to a number or to a word. -/
theorem delimiters_outside : ∀ d ∈ delimiters, isLabelChar d = false ∧ isVarChar d = false ∧ isDigit d = false ∧
    (isWord d || d = '-') = false := by decide +kernel

theorem isBlank_of_start : ∀ c ∈ ['<', '?', '_', '"', '@', '.'], isBlank c = false := by decide

/-! ### Rules that do not apply -/

section

variable {c : Char} (cs : List Char)

theorem blanks?_none (h : isBlank c = false) : blanks? (c :: cs) = none := by
  simp [blanks?, runLength?, h]

theorem comment?_none (h : c ≠ '#') : comment? (c :: cs) = none := by
  unfold comment?
  split
  next heq => cases heq; exact absurd rfl h
  · rfl

theorem iri?_none (h : c ≠ '<') : iri? (c :: cs) = none := by
  unfold iri?
  split
  next heq => cases heq; exact absurd rfl h
  · rfl

theorem marker?_none (h : c ≠ '<') : marker? (c :: cs) = none := by
  unfold marker?
  split
  next heq => cases heq; exact absurd rfl h
  · rfl

theorem string?_none (h₁ : c ≠ '"') (h₂ : c ≠ '\'') : string? (c :: cs) = none := by
  simp [string?, tripleQuoted?, singleQuoted?, List.isPrefixOf, h₁.symm, h₂.symm]

theorem var?_none (h₁ : c ≠ '?') (h₂ : c ≠ '$') : var? (c :: cs) = none := by
  simp [var?, h₁, h₂]

theorem blank?_none (h : c ≠ '_') : blank? (c :: cs) = none := by
  unfold blank?
  split
  next heq => cases heq; exact absurd rfl h
  · rfl

theorem prefixedName?_none (h₁ : isLabelChar c = false) (h₂ : c ≠ ':') : prefixedName? (c :: cs) = none := by
  have hlabel : (c :: cs).takeWhile isLabelChar = [] := by simp [h₁]
  simp only [prefixedName?, hlabel, List.length_nil, List.drop_zero]
  split
  next heq => cases heq; exact absurd rfl h₂
  · rfl

theorem language?_none (h : c ≠ '@') : language? (c :: cs) = none := by
  unfold language?
  split
  next heq => cases heq; exact absurd rfl h
  · rfl

private theorem digitCount_zero (h : isDigit c = false) : digitCount (c :: cs) = 0 := by
  simp [digitCount, h]

theorem double?_none (h₁ : isDigit c = false) (h₂ : c ≠ '.') : double? (c :: cs) = none := by
  have hmantissa : mantissa? (c :: cs) = none := by
    simp only [mantissa?, digitCount_zero cs h₁, List.drop_zero]
    split
    next heq => cases heq; exact absurd rfl h₂
    · rfl
  rw [double?, hmantissa]
  rfl

theorem decimal?_none (h₁ : isDigit c = false) (h₂ : c ≠ '.') : decimal? (c :: cs) = none := by
  simp only [decimal?, digitCount_zero cs h₁, List.drop_zero]
  split
  next heq => cases heq; exact absurd rfl h₂
  · rfl

theorem integer?_none (h : isDigit c = false) : integer? (c :: cs) = none := by
  simp [integer?, runLength?, h]

theorem word?_none (h : isWordStart c = false) : word? (c :: cs) = none := by
  simp [word?, h]

end

/-- No token but a symbol starts with the character. -/
def startsSymbol (c : Char) : Bool :=
  !isBlank c && c ≠ '#' && c ≠ '<' && c ≠ '"' && c ≠ '\'' && c ≠ '?' && c ≠ '$' && c ≠ '_' && !isLabelChar c && c ≠ ':'
    && c ≠ '@' && !isDigit c && c ≠ '.' && !isWordStart c

private theorem lexeme?_of_startsSymbol {c : Char} (h : startsSymbol c = true) (cs : List Char) :
    lexeme? (c :: cs) = ((datatypeMark? (c :: cs)).map (.token .datatypeMark, ·) <|>
      (symbol? (c :: cs)).map fun x => (.token (.symbol x), x.text.length)) := by
  simp only [startsSymbol, Bool.and_eq_true, Bool.not_eq_true', decide_eq_true_eq] at h
  obtain ⟨⟨⟨⟨⟨⟨⟨⟨⟨⟨⟨⟨⟨hblank, hhash⟩, hangle⟩, hquote⟩, hsingle⟩, hvar⟩, hdollar⟩, hlow⟩, hlabel⟩, hcolon⟩, hat⟩, hdigit⟩,
    hdot⟩, hword⟩ := h
  simp only [lexeme?, blanks?_none cs hblank, comment?_none cs hhash, iri?_none cs hangle, marker?_none cs hangle,
    string?_none cs hquote hsingle, var?_none cs hvar hdollar, blank?_none cs hlow, prefixedName?_none cs hlabel hcolon,
    language?_none cs hat, double?_none cs hdigit hdot, decimal?_none cs hdigit hdot, integer?_none cs hdigit,
    word?_none cs hword, Option.map_none, Option.orElse_eq_orElse, Option.orElse_none]

/-! ### Symbols -/

private theorem startsSymbol_of_start :
    ∀ c ∈ ['\x7b', '\x7d', '(', ')', '/', ',', '|', '^'], startsSymbol c = true := by
  decide +kernel

/-- The symbols that are cut out whatever follows them. -/
def plainSymbols : List Symbol := [.openBrace, .closeBrace, .openParen, .closeParen, .slash, .comma]

/-- A symbol that starts no longer token is one token. -/
theorem lexeme?_plain {x : Symbol} (h : x ∈ plainSymbols) (rest : List Char) :
    lexeme? (x.text.toList ++ rest) = some (.token (.symbol x), x.text.toList.length) := by
  simp only [plainSymbols, List.mem_cons, List.not_mem_nil, or_false] at h
  rcases h with rfl | rfl | rfl | rfl | rfl | rfl
  all_goals exact lexeme?_of_startsSymbol (startsSymbol_of_start _ (by decide)) rest

theorem lexeme?_bar {rest : List Char} (h : rest.head? ≠ some '|') :
    lexeme? ('|' :: rest) = some (.token (.symbol .bar), 1) := by
  rw [lexeme?_of_startsSymbol (startsSymbol_of_start _ (by decide))]
  cases rest with
  | nil => rfl
  | cons c rest =>
    have hc : ('|' == c) = false := by
      rw [beq_eq_false_iff_ne]
      rintro rfl
      exact h rfl
    simp [datatypeMark?, symbol?, symbols, Symbol.text, List.isPrefixOf, hc]
    rfl

theorem lexeme?_caret {rest : List Char} (h : rest.head? ≠ some '^') :
    lexeme? ('^' :: rest) = some (.token (.symbol .caret), 1) := by
  rw [lexeme?_of_startsSymbol (startsSymbol_of_start _ (by decide))]
  cases rest with
  | nil => rfl
  | cons c rest =>
    have hc : ('^' == c) = false := by
      rw [beq_eq_false_iff_ne]
      rintro rfl
      exact h rfl
    simp [datatypeMark?, symbol?, symbols, Symbol.text, List.isPrefixOf, hc]
    rfl

theorem lexeme?_mark (rest : List Char) : lexeme? ('^' :: '^' :: rest) = some (.token .datatypeMark, 2) :=
  lexeme?_of_startsSymbol (startsSymbol_of_start _ (by decide)) _

/-! ### Delimiters -/

/-- The text starts with a delimiter, if there is any text. -/
def Delimited (rest : List Char) : Prop := rest = [] ∨ ∃ d cs, rest = d :: cs ∧ d ∈ delimiters

theorem Delimited.nil : Delimited [] := .inl rfl

theorem Delimited.cons {d : Char} (h : d ∈ delimiters) (cs : List Char) : Delimited (d :: cs) := .inr ⟨d, cs, rfl, h⟩

/-- A run of characters ends at a delimiter that is none of them. -/
private theorem Delimited.takeWhile {rest run : List Char} (h : Delimited rest) {p : Char → Bool}
    (hp : ∀ d ∈ delimiters, p d = false) (hrun : ∀ c ∈ run, p c = true) : (run ++ rest).takeWhile p = run := by
  rw [List.takeWhile_append_of_pos hrun]
  rcases h with rfl | ⟨d, cs, rfl, hd⟩
  · rw [List.takeWhile_nil, List.append_nil]
  · rw [List.takeWhile_cons_of_neg (by simp [hp d hd]), List.append_nil]

private theorem prefixedName?_run {rest run : List Char} (h : Delimited rest) (hrun : ∀ c ∈ run, isLabelChar c = true) :
    prefixedName? (run ++ rest) = none := by
  simp only [prefixedName?, h.takeWhile (fun d hd => (delimiters_outside d hd).1) hrun, List.drop_left]
  rcases h with rfl | ⟨d, cs, rfl, hd⟩
  · rfl
  · split
    next heq =>
      cases heq
      exact absurd hd (by decide)
    · rfl

/-! ### IRIs, variables and texts -/

/-- An IRI in angle brackets is one token, whatever follows. -/
theorem lexeme?_iri {iri : String} (h : IsIri iri) (rest : List Char) :
    lexeme? (("<" ++ iri ++ ">").toList ++ rest) = some (.token .iri, ("<" ++ iri ++ ">").toList.length) := by
  have hbody : (iri.toList ++ '>' :: rest).takeWhile isIriChar = iri.toList := by
    rw [List.takeWhile_append_of_pos h, List.takeWhile_cons_of_neg (by decide), List.append_nil]
  have hiri : iri? ('<' :: (iri.toList ++ '>' :: rest)) = some (iri.toList.length + 2) := by
    simp only [iri?, hbody, List.drop_left]
  have htext : ("<" ++ iri ++ ">").toList ++ rest = '<' :: (iri.toList ++ '>' :: rest) := by simp
  rw [htext, lexeme?, hiri, blanks?_none _ (isBlank_of_start _ (by decide)), comment?_none _ (by decide)]
  simp

/-- A variable ends where no character of a name follows. -/
theorem lexeme?_varRun {run rest : List Char} (hne : run ≠ []) (hrun : ∀ c ∈ run, isVarChar c = true)
    (hrest : ∀ c ∈ rest.head?, isVarChar c = false) :
    lexeme? ('?' :: run ++ rest) = some (.token .var, ('?' :: run).length) := by
  have htake : (run ++ rest).takeWhile isVarChar = run := by
    rw [List.takeWhile_append_of_pos hrun]
    cases rest with
    | nil => rw [List.takeWhile_nil, List.append_nil]
    | cons c rest => rw [List.takeWhile_cons_of_neg (by simp [hrest c rfl]), List.append_nil]
  have hvar : var? ('?' :: (run ++ rest)) = some (run.length + 1) := by
    simp [var?, htake, runLength?, hne]
  rw [List.cons_append, lexeme?, hvar, blanks?_none _ (isBlank_of_start _ (by decide)), comment?_none _ (by decide),
    iri?_none _ (by decide), marker?_none _ (by decide), string?_none _ (by decide) (by decide)]
  rfl

private theorem Delimited.head {rest : List Char} (h : Delimited rest) {p : Char → Bool}
    (hp : ∀ d ∈ delimiters, p d = false) : ∀ c ∈ rest.head?, p c = false := by
  rcases h with rfl | ⟨d, cs, rfl, hd⟩
  · simp
  · rintro _ ⟨⟩
    exact hp d hd

/-- A name after a question mark is one variable. -/
theorem lexeme?_var {x : String} (h : IsVarName x) {rest : List Char} (hrest : Delimited rest) :
    lexeme? (("?" ++ x).toList ++ rest) = some (.token .var, ("?" ++ x).toList.length) := by
  have htext : ("?" ++ x).toList = '?' :: x.toList := by simp
  rw [htext]
  exact lexeme?_varRun h.1 h.2 (hrest.head fun d hd => (delimiters_outside d hd).2.1)

private theorem dropDots_dropDots (run : List Char) : dropDots (dropDots run) = dropDots run := by
  simp only [dropDots, List.reverse_reverse, List.dropWhile_idempotent]

/-- A label after an underscore and a colon is one token. -/
theorem lexeme?_blank {label : String} (h : IsBlankLabel label) {rest : List Char} (hrest : Delimited rest) :
    lexeme? (("_:" ++ label).toList ++ rest) = some (.token .blank, ("_:" ++ label).toList.length) := by
  obtain ⟨c, cs, hlabel, hc, hcs⟩ := h
  have hrun : ∀ d ∈ dropDots cs, isLabelChar d = true := fun d hd => hcs d ((dropDots_isPrefix cs).subset hd)
  have hblank : blank? ('_' :: ':' :: c :: (dropDots cs ++ rest)) = some ((dropDots cs).length + 3) := by
    have htake := hrest.takeWhile (fun d hd => (delimiters_outside d hd).1) hrun
    simp only [blank?, hc, ↓reduceIte, htake, dropDots_dropDots]
  have htext : ("_:" ++ label).toList ++ rest = '_' :: ':' :: c :: (dropDots cs ++ rest) := by simp [hlabel]
  have hlength : ("_:" ++ label).toList.length = (dropDots cs).length + 3 := by simp [hlabel]
  rw [htext, hlength, lexeme?, hblank, blanks?_none _ (isBlank_of_start _ (by decide)), comment?_none _ (by decide),
    iri?_none _ (by decide), marker?_none _ (by decide), string?_none _ (by decide) (by decide),
    var?_none _ (by decide) (by decide)]
  rfl

/-- A text that is escaped and quoted is one token. -/
theorem lexeme?_string (cs : List Char) {rest : List Char} (h : rest.head? ≠ some '"') :
    lexeme? (('"' :: escape cs ++ ['"']) ++ rest) = some (.token .string, ('"' :: escape cs ++ ['"']).length) := by
  have htext : ('"' :: escape cs ++ ['"']) ++ rest = '"' :: escape cs ++ '"' :: rest := by simp
  have hstring := string?_quoted cs h
  rw [htext, lexeme?, hstring, List.cons_append, blanks?_none _ (isBlank_of_start _ (by decide)), comment?_none _ (by decide),
    iri?_none _ (by decide), marker?_none _ (by decide)]
  simp

/-- The further parts of a language tag are found in what follows its first part. -/
private theorem languageParts_eq {rest : List Char} (hrest : Delimited rest) (parts : List (List Char)) :
    ∀ fuel, parts.length ≤ fuel → (∀ part ∈ parts, part ≠ [] ∧ ∀ c ∈ part, c.isAlphanum = true) →
    languageParts fuel (parts.flatMap ('-' :: ·) ++ rest) = (parts.flatMap ('-' :: ·)).length := by
  induction parts with
  | nil =>
    intro fuel _ _
    cases fuel with
    | zero => rfl
    | succ fuel =>
      simp only [List.flatMap_nil, List.nil_append, languageParts, List.length_nil]
      rcases hrest with rfl | ⟨d, cs, rfl, hd⟩
      · rfl
      · split
        next heq =>
          cases heq
          exact absurd hd (by decide)
        · rfl
  | cons part parts ih =>
    intro fuel hfuel hparts
    obtain ⟨⟨hne, hpart⟩, hparts⟩ := List.forall_mem_cons.1 hparts
    obtain ⟨fuel, rfl⟩ := Nat.exists_eq_succ_of_ne_zero (Nat.ne_of_gt (Nat.lt_of_lt_of_le (Nat.succ_pos _) hfuel))
    -- a part ends at the mark of the next one or at the delimiter
    have htake : (part ++ (parts.flatMap ('-' :: ·) ++ rest)).takeWhile Char.isAlphanum = part := by
      cases parts with
      | nil => exact hrest.takeWhile (by decide) hpart
      | cons next others =>
        rw [List.flatMap_cons, List.cons_append, List.cons_append, List.takeWhile_append_of_pos hpart,
          List.takeWhile_cons_of_neg (by decide), List.append_nil]
    simp only [List.flatMap_cons, List.cons_append, List.append_assoc, languageParts, htake, List.drop_left,
      ih fuel (Nat.le_of_succ_le_succ hfuel) hparts]
    simp only [List.isEmpty_eq_false_iff.2 hne, Bool.false_eq_true, ↓reduceIte, List.length_cons, List.length_append]
    omega

/-- A language tag after its sign is one token. -/
theorem lexeme?_language {tag : String} (h : IsLanguage tag) {rest : List Char} (hrest : Delimited rest) :
    lexeme? (("@" ++ tag).toList ++ rest) = some (.token .language, ("@" ++ tag).toList.length) := by
  obtain ⟨first, parts, htag, hne, hfirst, hparts⟩ := h
  have htake : (first ++ (parts.flatMap ('-' :: ·) ++ rest)).takeWhile Char.isAlpha = first := by
    cases parts with
    | nil => exact hrest.takeWhile (by decide) hfirst
    | cons next others =>
      rw [List.flatMap_cons, List.cons_append, List.cons_append, List.takeWhile_append_of_pos hfirst,
        List.takeWhile_cons_of_neg (by decide), List.append_nil]
  have hfuel : parts.length ≤ (first ++ (parts.flatMap ('-' :: ·) ++ rest)).length := by
    have hle : parts.length ≤ (parts.flatMap ('-' :: ·)).length := by
      clear htag hparts htake
      induction parts with
      | nil => simp
      | cons part parts ih =>
        simp only [List.flatMap_cons, List.cons_append, List.length_cons, List.length_append]
        omega
    simp only [List.length_append]
    omega
  have hlanguage : language? ('@' :: (first ++ (parts.flatMap ('-' :: ·) ++ rest))) =
      some (first.length + 1 + (parts.flatMap ('-' :: ·)).length) := by
    simp only [language?, htake, List.isEmpty_eq_false_iff.2 hne, Bool.false_eq_true, ↓reduceIte, List.drop_left,
      languageParts_eq hrest parts _ hfuel hparts]
  have htext : ("@" ++ tag).toList ++ rest = '@' :: (first ++ (parts.flatMap ('-' :: ·) ++ rest)) := by simp [htag]
  have hlength : ("@" ++ tag).toList.length = first.length + 1 + (parts.flatMap ('-' :: ·)).length := by
    rw [String.toList_append, htag]
    simp only [List.length_append]
    show 1 + _ = _
    omega
  have hlabel : isLabelChar '@' = false := by simp [isLabelChar, isWord_of_mem_marks '@' (by decide)]
  rw [htext, hlength, lexeme?, hlanguage, blanks?_none _ (isBlank_of_start _ (by decide)), comment?_none _ (by decide),
    iri?_none _ (by decide), marker?_none _ (by decide), string?_none _ (by decide) (by decide),
    var?_none _ (by decide) (by decide), blank?_none _ (by decide), prefixedName?_none _ hlabel (by decide)]
  rfl

/-! ### Words, numbers and dots -/

/-- No token but a word or a name starts with the character. -/
def startsWord (c : Char) : Bool :=
  !isBlank c && c ≠ '#' && c ≠ '<' && c ≠ '"' && c ≠ '\'' && c ≠ '?' && c ≠ '$' && c ≠ '_' && c ≠ '@' && !isDigit c
    && c ≠ '.' && isWordStart c

/-- What starts like a word and is no name with a prefix is a word. -/
theorem lexeme?_of_startsWord {c : Char} {cs : List Char} (h : startsWord c = true)
    (hname : prefixedName? (c :: cs) = none) :
    lexeme? (c :: cs) = some (.token .word, (cs.takeWhile fun c => isWord c || c = '-').length + 1) := by
  simp only [startsWord, Bool.and_eq_true, Bool.not_eq_true', decide_eq_true_eq] at h
  obtain ⟨⟨⟨⟨⟨⟨⟨⟨⟨⟨⟨hblank, hhash⟩, hangle⟩, hquote⟩, hsingle⟩, hvar⟩, hdollar⟩, hlow⟩, hat⟩, hdigit⟩, hdot⟩, hfirst⟩ := h
  simp only [lexeme?, blanks?_none _ hblank, comment?_none _ hhash, iri?_none _ hangle, marker?_none _ hangle,
    string?_none _ hquote hsingle, var?_none _ hvar hdollar, blank?_none _ hlow, hname, language?_none _ hat,
    double?_none _ hdigit hdot, decimal?_none _ hdigit hdot, integer?_none _ hdigit, word?, hfirst, ↓reduceIte]
  rfl

/-- Letters up to a delimiter are one word. -/
theorem lexeme?_word {word rest : List Char} (hne : word ≠ []) (hword : ∀ c ∈ word, c ∈ letters)
    (hrest : Delimited rest) : lexeme? (word ++ rest) = some (.token .word, word.length) := by
  have hstarts : ∀ c ∈ letters, startsWord c = true := by decide
  have hlabel : ∀ c ∈ letters, isLabelChar c = true := by decide
  have hinside : ∀ c ∈ letters, (isWord c || c = '-') = true := by decide
  have hname := prefixedName?_run hrest fun c hc => hlabel c (hword c hc)
  cases word with
  | nil => exact absurd rfl hne
  | cons c cs =>
    obtain ⟨hc, hcs⟩ := List.forall_mem_cons.1 hword
    have htake := hrest.takeWhile (p := fun c => isWord c || c = '-') (fun d hd => (delimiters_outside d hd).2.2.2)
      fun d hd => hinside d (hcs d hd)
    rw [List.cons_append] at hname ⊢
    rw [lexeme?_of_startsWord (hstarts c hc) hname, htake, List.length_cons]

private theorem digitCount_run {rest run : List Char} (h : Delimited rest) (hrun : ∀ c ∈ run, isDigit c = true) :
    digitCount (run ++ rest) = run.length := by
  rw [digitCount, h.takeWhile (fun d hd => (delimiters_outside d hd).2.2.1) hrun]

private theorem integer?_run {run rest : List Char} (hne : run ≠ []) (hrun : ∀ c ∈ run, isDigit c = true)
    (hrest : Delimited rest) : integer? (run ++ rest) = some run.length := by
  rw [integer?, hrest.takeWhile (fun d hd => (delimiters_outside d hd).2.2.1) hrun, runLength?]
  simp [hne]

/-- No fraction follows a run of digits before a delimiter. -/
private theorem decimal?_run {run rest : List Char} (hrun : ∀ c ∈ run, isDigit c = true) (hrest : Delimited rest) :
    decimal? (run ++ rest) = none := by
  simp only [decimal?, digitCount_run hrest hrun, List.drop_left]
  rcases hrest with rfl | ⟨d, cs, rfl, hd⟩
  · rfl
  · split
    next heq =>
      cases heq
      exact absurd hd (by decide)
    · rfl

/-- Nor does an exponent. -/
private theorem double?_run {run rest : List Char} (hne : run ≠ []) (hrun : ∀ c ∈ run, isDigit c = true)
    (hrest : Delimited rest) : double? (run ++ rest) = none := by
  have hmantissa : mantissa? (run ++ rest) = some run.length := by
    simp only [mantissa?, digitCount_run hrest hrun, List.drop_left]
    rcases hrest with rfl | ⟨d, cs, rfl, hd⟩
    · simp [hne]
    · split
      next heq =>
        cases heq
        exact absurd hd (by decide)
      · simp [hne]
  have hexponent : exponentLength? rest = none := by
    have hletter : ∀ d ∈ delimiters, (d = 'e' || d = 'E') = false := by decide
    rcases hrest with rfl | ⟨d, cs, rfl, hd⟩
    · rfl
    · simp [exponentLength?, hletter d hd]
  simp [double?, hmantissa, hexponent, bind, Option.bind]

/-- Digits up to a delimiter are one integer. -/
theorem lexeme?_integer {run rest : List Char} (hne : run ≠ []) (hrun : ∀ c ∈ run, c ∈ "0123456789".toList)
    (hrest : Delimited rest) : lexeme? (run ++ rest) = some (.token .integer, run.length) := by
  have hdigit : ∀ c ∈ "0123456789".toList, isDigit c = true := by decide
  have hlabel : ∀ c ∈ "0123456789".toList, isLabelChar c = true := by decide
  have hdigits : ∀ c ∈ run, isDigit c = true := fun c hc => hdigit c (hrun c hc)
  have hname := prefixedName?_run hrest fun c hc => hlabel c (hrun c hc)
  have hinteger := integer?_run hne hdigits hrest
  have hdecimal := decimal?_run hdigits hrest
  have hdouble := double?_run hne hdigits hrest
  cases run with
  | nil => exact absurd rfl hne
  | cons c cs =>
    have hstarts : ∀ c ∈ "0123456789".toList, isBlank c = false ∧ c ≠ '#' ∧ c ≠ '<' ∧ c ≠ '"' ∧ c ≠ '\'' ∧ c ≠ '?' ∧
        c ≠ '$' ∧ c ≠ '_' ∧ c ≠ '@' := by decide
    obtain ⟨hblank, hhash, hangle, hquote, hsingle, hvar, hdollar, hlow, hat⟩ := hstarts c (hrun c List.mem_cons_self)
    rw [List.cons_append] at hname hinteger hdecimal hdouble ⊢
    simp only [lexeme?, blanks?_none _ hblank, comment?_none _ hhash, iri?_none _ hangle, marker?_none _ hangle,
      string?_none _ hquote hsingle, var?_none _ hvar hdollar, blank?_none _ hlow, hname, language?_none _ hat, hdouble,
      hdecimal, hinteger]
    rfl

theorem lexeme?_dot {rest : List Char} (hrest : Delimited rest) :
    lexeme? ('.' :: rest) = some (.token (.symbol .dot), 1) := by
  have hname : prefixedName? (['.'] ++ rest) = none := prefixedName?_run hrest (by simp [isLabelChar])
  have hplaces : digitCount ([] ++ rest) = 0 := digitCount_run hrest (by simp)
  rw [List.singleton_append] at hname
  rw [List.nil_append] at hplaces
  have hwhole : digitCount ('.' :: rest) = 0 := digitCount_zero _ (by decide)
  have hdouble : double? ('.' :: rest) = none := by
    have hmantissa : mantissa? ('.' :: rest) = none := by
      simp [mantissa?, hwhole, hplaces]
    rw [double?, hmantissa]
    rfl
  have hdecimal : decimal? ('.' :: rest) = none := by
    simp [decimal?, hwhole, hplaces]
  have hword : isWordStart '.' = false := by simp [isWordStart, isWord_of_mem_marks '.' (by decide)]
  simp only [lexeme?, blanks?_none _ (isBlank_of_start '.' (by decide)),
    comment?_none _ (show '.' ≠ '#' by decide), iri?_none _ (show '.' ≠ '<' by decide),
    marker?_none _ (show '.' ≠ '<' by decide), string?_none _ (show '.' ≠ '"' by decide) (by decide),
    var?_none _ (show '.' ≠ '?' by decide) (by decide), blank?_none _ (show '.' ≠ '_' by decide), hname,
    language?_none _ (show '.' ≠ '@' by decide), hdouble, hdecimal,
    integer?_none _ (show isDigit '.' = false by decide), word?_none _ hword]
  rfl

end PointOfFocus.Query
