import PointOfFocus.Proofs.Text.Letter
import PointOfFocus.Query.Names

/-!
# Texts between quotes

What is written between double quotes is read back as it was (`unescape_escape`), and the text in quotes is cut out of
what follows it as a whole (`string?_quoted`). A text that cannot be read has an escape beyond the last code point
(`unescape_error`).
-/

namespace PointOfFocus.Text

/-- A text is escaped character by character. -/
theorem escape_cons (c : Char) (cs : List Char) : escape (c :: cs) = escapeChar c ++ escape cs := List.flatMap_cons

/-- How a character is written between quotes: as it is, or with a backslash before a letter that stands for it. -/
theorem escapeChar_cases (c : Char) :
    escapeChar c = [c] ∧ c ≠ '\\' ∧ c ≠ '"' ∧ c ≠ '\n' ∧ c ≠ '\r' ∨
      ∃ e, escapeChar c = ['\\', e] ∧ e ∈ ['\\', '"', 'n', 'r'] ∧ namedEscape e = c := by
  unfold escapeChar
  split
  next h =>
    simp only [Bool.or_eq_true, decide_eq_true_eq] at h
    rcases h with rfl | rfl
    · exact .inr ⟨'\\', rfl, by decide, by decide⟩
    · exact .inr ⟨'"', rfl, by decide, by decide⟩
  next h =>
    simp only [Bool.or_eq_true, decide_eq_true_eq, not_or] at h
    split
    next hn => exact .inr ⟨'n', rfl, by decide, by rw [hn]; rfl⟩
    next hn =>
      split
      next hr => exact .inr ⟨'r', rfl, by decide, by rw [hr]; rfl⟩
      next hr => exact .inl ⟨rfl, h.1, h.2, hn, hr⟩

/-- A character other than a backslash stands for itself. -/
theorem unescapeFrom_plain {c : Char} (h : c ≠ '\\') (cs : List Char) :
    unescapeFrom 0 (c :: cs) = do return c :: (← unescapeFrom 0 cs) := by
  rw [unescapeFrom.eq_def]
  simp only [h, ↓reduceIte]

/-- A backslash before a character that starts no number names a character. -/
theorem unescapeFrom_escaped {e : Char} {cs : List Char} (h : numericEscape? (e :: cs) = none) :
    unescapeFrom 0 ('\\' :: e :: cs) = do return namedEscape e :: (← unescapeFrom 0 cs) := by
  rw [unescapeFrom.eq_def]
  simp only [↓reduceIte, h, unescapeFrom]

private theorem unescape_escape (cs : List Char) : unescape (escape cs) = .ok cs := by
  unfold unescape
  induction cs with
  | nil => rfl
  | cons c cs ih =>
    rw [escape_cons]
    rcases escapeChar_cases c with ⟨hchar, hne, _⟩ | ⟨e, hchar, he, hnamed⟩
    · rw [hchar, List.singleton_append, unescapeFrom_plain hne, ih]
      rfl
    · have hnumber : numericEscape? (e :: escape cs) = none := by
        simp only [List.mem_cons, List.not_mem_nil, or_false] at he
        rcases he with rfl | rfl | rfl | rfl <;> rfl
      rw [hchar, List.cons_append, List.singleton_append, unescapeFrom_escaped hnumber, ih, hnamed]
      rfl

/-- No quote stands at the start of a text that is not empty. -/
private theorem head_escape {cs : List Char} {c : Char} (h : (escape cs).head? = some c) : c ≠ '"' := by
  cases cs with
  | nil => cases h
  | cons d cs =>
    rw [escape_cons] at h
    rcases escapeChar_cases d with ⟨hchar, _, hne, _⟩ | ⟨e, hchar, _, _⟩
    · rw [hchar] at h
      cases h
      exact hne
    · rw [hchar] at h
      cases h
      decide

/-! ### Escapes that name no character -/

private theorem hexValue?_lt {c : Char} {n : Nat} (h : hexValue? c = some n) : n < 16 := by
  have hle : ∀ {a b : Char}, a ≤ b → a.toNat ≤ b.toNat := fun hab => hab
  unfold hexValue? at h
  split at h
  next hc =>
    have hc' := hle (of_decide_eq_true (Bool.and_eq_true_iff.1 hc).2)
    cases h
    exact Nat.lt_of_le_of_lt (Nat.sub_le_sub_right hc' _) (by decide)
  split at h
  next hc =>
    have hc' := hle (of_decide_eq_true (Bool.and_eq_true_iff.1 hc).2)
    cases h
    exact Nat.lt_of_le_of_lt (Nat.add_le_add_right (Nat.sub_le_sub_right hc' _) 10) (by decide)
  split at h
  next hc =>
    have hc' := hle (of_decide_eq_true (Bool.and_eq_true_iff.1 hc).2)
    cases h
    exact Nat.lt_of_le_of_lt (Nat.add_le_add_right (Nat.sub_le_sub_right hc' _) 10) (by decide)
  · cases h

private theorem hexNumber?_go_lt {width : Nat} {cs : List Char} {n value : Nat}
    (h : hexNumber?.go width cs n = some value) : value < Nat.pow 16 width * (n + 1) := by
  fun_induction hexNumber?.go width cs n with
  | case1 => cases h; exact Nat.lt_of_lt_of_eq (Nat.lt_succ_self _) (Nat.one_mul _).symm
  | case2 => cases h
  | case3 width c cs n ih =>
    obtain ⟨digit, hdigit, hrest⟩ := Option.bind_eq_some_iff.1 h
    have hlt := hexValue?_lt hdigit
    calc value < Nat.pow 16 width * (16 * n + digit + 1) := ih digit hrest
      _ ≤ Nat.pow 16 width * (16 * (n + 1)) := Nat.mul_le_mul_left _ (by omega)
      _ = Nat.pow 16 (width + 1) * (n + 1) := (Nat.mul_assoc _ _ _).symm

private theorem codePoint_of_lt {n : Nat} (h : n < 0x110000) : ∃ c, codePoint n = .ok c := by
  unfold codePoint
  rw [if_neg (by omega), if_neg (by omega)]
  split
  · exact ⟨_, rfl⟩
  · exact ⟨_, rfl⟩

/-- Only an escape of eight digits can name no character: four digits cannot leave the range of the code points. -/
private theorem numericEscape?_high {cs : List Char} {n width : Nat} (h : numericEscape? cs = some (n, width))
    (hn : 0x110000 ≤ n) : ∃ digits, cs = 'U' :: digits ∧ hexNumber? 8 digits = some n := by
  unfold numericEscape? at h
  split at h
  next digits =>
    obtain ⟨value, hvalue, heq⟩ := Option.map_eq_some_iff.1 h
    cases heq
    have hlt : n < 0x10000 := hexNumber?_go_lt hvalue
    omega
  next digits =>
    obtain ⟨value, hvalue, heq⟩ := Option.map_eq_some_iff.1 h
    cases heq
    exact ⟨digits, rfl, hvalue⟩
  · cases h

/-- The text has an escape of eight digits beyond the last code point. -/
def HasHighEscape (cs : List Char) : Prop :=
  ∃ digits n, '\\' :: 'U' :: digits <:+ cs ∧ hexNumber? 8 digits = some n ∧ 0x110000 ≤ n

private theorem HasHighEscape.cons {cs : List Char} (h : HasHighEscape cs) (c : Char) : HasHighEscape (c :: cs) :=
  let ⟨digits, n, hsuffix, hn⟩ := h
  ⟨digits, n, hsuffix.trans (List.suffix_cons c cs), hn⟩

/-- The rest of a text was at fault. -/
private theorem error_of_map {cs : Except EscapeError (List Char)} {c : Char} {cause : EscapeError}
    (h : (do return c :: (← cs)) = Except.error cause) : cs = .error cause := by
  cases cs with
  | error e => exact congrArg Except.error (Except.error.inj h)
  | ok cs => cases h

private theorem unescapeFrom_error {skip : Nat} {cs : List Char} {cause : EscapeError}
    (h : unescapeFrom skip cs = .error cause) : HasHighEscape cs := by
  fun_induction unescapeFrom skip cs with
  | case1 => cases h
  | case2 skip c cs ih => exact (ih h).cons c
  | case3 cs n width hescape ih =>
    by_cases hn : 0x110000 ≤ n
    · obtain ⟨digits, rfl, hdigits⟩ := numericEscape?_high hescape hn
      exact ⟨digits, n, List.suffix_refl _, hdigits, hn⟩
    · obtain ⟨c, hc⟩ := codePoint_of_lt (Nat.lt_of_not_le hn)
      rw [hc] at h
      exact (ih (error_of_map h)).cons _
  | case4 => cases h
  | case5 e cs hescape ih => exact (ih (error_of_map h)).cons _
  | case6 c cs hc ih => exact (ih (error_of_map h)).cons c

/-- A text that cannot be read has an escape beyond the last code point. -/
theorem unescape_error {cs : List Char} {cause : EscapeError} (h : unescape cs = .error cause) : HasHighEscape cs := by
  unfold unescape at h
  exact unescapeFrom_error h

end PointOfFocus.Text

namespace PointOfFocus.Query

open PointOfFocus.Text

private theorem shortText?_quote (cs : List Char) : shortText? '"' ('"' :: cs) = some 1 := by
  rw [shortText?.eq_def]
  simp only [↓reduceIte]

private theorem shortText?_plain {c : Char} (hquote : c ≠ '"') (hback : c ≠ '\\') (hn : c ≠ '\n') (hr : c ≠ '\r')
    (cs : List Char) : shortText? '"' (c :: cs) = (shortText? '"' cs).map (· + 1) := by
  rw [shortText?.eq_def]
  simp [hquote, hback, hn, hr]

private theorem shortText?_escaped {e : Char} (hn : e ≠ '\n') (cs : List Char) :
    shortText? '"' ('\\' :: e :: cs) = (shortText? '"' cs).map (· + 2) := by
  rw [shortText?.eq_def]
  simp [hn]

private theorem shortText?_escape (cs rest : List Char) :
    shortText? '"' (escape cs ++ '"' :: rest) = some ((escape cs).length + 1) := by
  induction cs with
  | nil => exact shortText?_quote rest
  | cons c cs ih =>
    rw [escape_cons, List.append_assoc]
    rcases escapeChar_cases c with ⟨hchar, hback, hquote, hn, hr⟩ | ⟨e, hchar, he, _⟩
    · rw [hchar, List.singleton_append, shortText?_plain hquote hback hn hr, ih]
      simp
    · have hn : e ≠ '\n' := by
        rintro rfl
        revert he
        decide
      rw [hchar, List.cons_append, List.singleton_append, shortText?_escaped hn, ih]
      simp

/-- A text in quotes does not start with three of them, unless one follows the empty text. -/
private theorem not_triple (cs rest : List Char) (h : rest.head? ≠ some '"') :
    ['"', '"', '"'].isPrefixOf ('"' :: escape cs ++ '"' :: rest) = false := by
  cases hcs : escape cs with
  | nil =>
    cases rest with
    | nil => rfl
    | cons c rest =>
      have hc : '"' ≠ c := fun hc => h (by rw [hc]; rfl)
      simp [List.isPrefixOf, hc]
  | cons c cs' =>
    have hc : '"' ≠ c := fun hc => head_escape (by rw [hcs]; rfl) hc.symm
    simp [List.isPrefixOf, hc]

/-- A text in quotes is cut out as a whole. -/
theorem string?_quoted (cs : List Char) {rest : List Char} (h : rest.head? ≠ some '"') :
    string? ('"' :: escape cs ++ '"' :: rest) = some ((escape cs).length + 2) := by
  have hother : ['\'', '\'', '\''].isPrefixOf ('"' :: escape cs ++ '"' :: rest) = false := rfl
  have hone : ['"'].isPrefixOf ('"' :: escape cs ++ '"' :: rest) = true := by simp [List.isPrefixOf]
  have hdrop : ('"' :: escape cs ++ '"' :: rest).drop 1 = escape cs ++ '"' :: rest := rfl
  simp only [string?, tripleQuoted?, singleQuoted?, not_triple cs rest h, hother, hone, hdrop, shortText?_escape,
    Bool.false_eq_true, ↓reduceIte, Option.map_some, Option.orElse_eq_orElse, Option.orElse_none, Option.orElse_some]

/-- The text in quotes, as it is written. -/
def inQuotes (text : String) : String := String.ofList ('"' :: escape text.toList ++ ['"'])

/-- The text in quotes stands for the text. -/
theorem quotedText_escape (lexical : String) :
    quotedText (String.ofList ('"' :: escape lexical.toList ++ ['"'])) = .ok lexical := by
  have hwidth : quoteWidth (String.ofList ('"' :: escape lexical.toList ++ ['"'])) = 1 := by
    have htriple := not_triple lexical.toList [] (by simp)
    have hother : ['\'', '\'', '\''].isPrefixOf ('"' :: escape lexical.toList ++ ['"']) = false := rfl
    simp only [quoteWidth, String.toList_ofList, htriple, hother, Bool.or_self, Bool.false_eq_true, ↓reduceIte]
  have hunwrap : (unwrap 1 (String.ofList ('"' :: escape lexical.toList ++ ['"']))).toList = escape lexical.toList := by
    have hlength : (String.ofList ('"' :: escape lexical.toList ++ ['"'])).length - 2 * 1 =
        (escape lexical.toList).length := by
      rw [String.length_ofList, List.length_append, List.length_cons, List.length_singleton]
      omega
    rw [unwrap, hlength, String.toList_ofList, String.toList_ofList]
    exact List.take_left
  rw [quotedText, hwidth, hunwrap, unescape_escape]
  simp [bind, Except.bind, pure, Except.pure]

end PointOfFocus.Query
