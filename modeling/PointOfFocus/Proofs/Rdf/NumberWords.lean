import PointOfFocus.Proofs.Rdf.Literal
import PointOfFocus.Proofs.Rdf.LongText

/-!
# Words for numbers that are not finite

The text of a literal with a datatype has been brought to one form. Infinities and undefined numbers have a few texts
then, and each of them is written with a word that brings it to the same text again; all other texts are written as they
are, since the letters that the words start with do not occur in numbers (`numberWords_normalized`). A word that is the
text of a literal itself is not brought to another text (`normalized_word`).
-/

namespace PointOfFocus

open PointOfFocus.Number
open PointOfFocus.Text

/-! ### The text of finite numbers -/

namespace Number

private theorem isNumberChar_of_mem_toDigits {n : Nat} {c : Char} (h : c ∈ Nat.toDigits 10 n) : IsNumberChar c :=
  .inl (isDigit_of_mem_toDigits h)

private theorem isNumberChar_zero : IsNumberChar '0' := .inl (by decide +kernel)

private theorem isNumberChar_mark : ∀ c ∈ ['+', '-', '.', 'e', 'E'], IsNumberChar c := fun _ hc => .inr hc

private theorem isNumberChar_leftpad (width n : Nat) : ∀ c ∈ (Nat.toDigits 10 n).leftpad width '0', IsNumberChar c := by
  intro c hc
  rw [List.leftpad, List.mem_append] at hc
  rcases hc with hc | hc
  · exact List.eq_of_mem_replicate hc ▸ isNumberChar_zero
  · exact isNumberChar_of_mem_toDigits hc

private theorem isNumberChar_negated {cs : List Char} (h : ∀ c ∈ cs, IsNumberChar c) (negative : Bool) :
    ∀ c ∈ if negative then '-' :: cs else cs, IsNumberChar c := by
  cases negative with
  | false => exact h
  | true => exact List.forall_mem_cons.2 ⟨isNumberChar_mark _ (by decide), h⟩

private theorem isNumberChar_layout {digits : List Char} (h : ∀ c ∈ digits, IsNumberChar c) (power : Int) :
    ∀ c ∈ layout digits power, IsNumberChar c := by
  have hzeros (n : Nat) : ∀ c ∈ List.replicate n '0', IsNumberChar c :=
    fun c hc => List.eq_of_mem_replicate hc ▸ isNumberChar_zero
  have htake (n : Nat) : ∀ c ∈ digits.take n, IsNumberChar c := fun c hc => h c (List.mem_of_mem_take hc)
  have hdrop (n : Nat) : ∀ c ∈ digits.drop n, IsNumberChar c := fun c hc => h c (List.mem_of_mem_drop hc)
  have hpoint {cs : List Char} (hcs : ∀ c ∈ cs, IsNumberChar c) : ∀ c ∈ '.' :: cs, IsNumberChar c :=
    List.forall_mem_cons.2 ⟨isNumberChar_mark _ (by decide), hcs⟩
  unfold layout
  dsimp only
  split
  · split
    · exact List.forall_mem_cons.2 ⟨isNumberChar_zero, hpoint (List.forall_mem_append.2 ⟨hzeros _, h⟩)⟩
    · split
      · have hend : ∀ c ∈ ['.', '0'], IsNumberChar c := hpoint (List.forall_mem_singleton.2 isNumberChar_zero)
        exact List.forall_mem_append.2 ⟨List.forall_mem_append.2 ⟨h, hzeros _⟩, hend⟩
      · exact List.forall_mem_append.2 ⟨htake _, hpoint (hdrop _)⟩
  · have hfraction : ∀ c ∈ if digits.length ≤ 1 then [] else '.' :: digits.drop 1, IsNumberChar c := by
      split
      · simp
      · exact hpoint (hdrop _)
    have hmark (b : Prop) [Decidable b] : ∀ c ∈ ['e', if b then '-' else '+'], IsNumberChar c := by
      refine List.forall_mem_cons.2 ⟨isNumberChar_mark _ (by decide), List.forall_mem_singleton.2 ?_⟩
      split <;> exact isNumberChar_mark _ (by decide)
    exact List.forall_mem_append.2 ⟨List.forall_mem_append.2 ⟨List.forall_mem_append.2 ⟨htake _, hfraction⟩, hmark _⟩,
      isNumberChar_leftpad _ _⟩

/-- A finite floating-point number is written with digits and signs. -/
private theorem isNumberChar_text {x : Binary64} (h : x.isFinite = true) : ∀ c ∈ x.text.toList, IsNumberChar c := by
  cases x with
  | infinite | notANumber => cases h
  | finite negative mantissa exponent =>
    rw [Binary64.text, String.toList_ofList]
    refine isNumberChar_negated ?_ negative
    split
    · exact List.forall_mem_cons.2 ⟨isNumberChar_zero, List.forall_mem_cons.2 ⟨isNumberChar_mark _ (by decide),
        List.forall_mem_singleton.2 isNumberChar_zero⟩⟩
    · exact isNumberChar_layout (fun c hc => isNumberChar_of_mem_toDigits hc) _

private theorem isNumberChar_withPoint (places n : Nat) : ∀ c ∈ withPoint places n, IsNumberChar c := by
  have hdigits := isNumberChar_leftpad (places + 1) n
  unfold withPoint
  dsimp only
  split
  · exact hdigits
  · refine List.forall_mem_append.2 ⟨fun c hc => hdigits c (List.mem_of_mem_take hc), ?_⟩
    exact List.forall_mem_cons.2 ⟨isNumberChar_mark _ (by decide), fun c hc => hdigits c (List.mem_of_mem_drop hc)⟩

/-- A finite decimal number is written with digits and signs. -/
private theorem isNumberChar_plain {d : Decimal} (h : d.isFinite = true) : ∀ c ∈ d.plain.toList, IsNumberChar c := by
  cases d with
  | infinite | undefined => cases h
  | finite x =>
    rw [Decimal.plain, String.toList_ofList]
    refine isNumberChar_negated ?_ x.negative
    split
    · split
      · exact List.forall_mem_singleton.2 isNumberChar_zero
      · exact isNumberChar_withPoint _ _
    · exact isNumberChar_withPoint _ _

end Number

namespace Rdf

/-! ### Texts without words -/

/-- A text without the first character of the pattern stays as it is. -/
private theorem replaceFrom_of_notMem {c : Char} {pattern replacement cs : List Char} (h : c ∉ cs) :
    replaceFrom (c :: pattern) replacement 0 cs = cs := by
  induction cs with
  | nil => rfl
  | cons d cs ih =>
    have hd : (c == d) = false := by
      rw [beq_eq_false_iff_ne]
      rintro rfl
      exact h List.mem_cons_self
    have hcs : c ∉ cs := fun hc => h (List.mem_cons_of_mem _ hc)
    simp [replaceFrom, List.isPrefixOf, hd, ih hcs]

/-- The letters that the replaced words start with. -/
def wordStarts : List Char := ['i', 'I', 'n']

/-- A text without these letters is written as it is. -/
private theorem numberWords_of_forall {iri lexical : String} (h : ∀ c ∈ lexical.toList, c ∉ wordStarts) :
    numberWords iri lexical (quotedLexical lexical.toList) = quotedLexical lexical.toList := by
  have hnot : ∀ d ∈ wordStarts, d ∉ quotedLexical lexical.toList := by
    have hescape : ∀ d ∈ wordStarts, d ∉ ['\\', '"', 'r'] := by decide
    intro d hd hmem
    exact (mem_quotedLexical hmem).elim (fun hmem => h d hmem hd) (hescape d hd)
  have hi : replaceAll "inf" "INF" (quotedLexical lexical.toList) = quotedLexical lexical.toList :=
    replaceFrom_of_notMem (hnot 'i' (by decide))
  have hI : replaceAll "Infinity" "INF" (quotedLexical lexical.toList) = quotedLexical lexical.toList :=
    replaceFrom_of_notMem (hnot 'I' (by decide))
  have hn : replaceAll "nan" "NaN" (quotedLexical lexical.toList) = quotedLexical lexical.toList :=
    replaceFrom_of_notMem (hnot 'n' (by decide))
  unfold numberWords
  split
  · split
    · rw [hi, hI]
    · exact hn
    · rfl
  · rfl

private theorem notMem_wordStarts {c : Char} (h : IsNumberChar c ∨ c = '_' ∨ isBlank c = true) : c ∉ wordStarts := by
  have hall : ∀ d ∈ wordStarts, isDigit d = false ∧ d ∉ ['+', '-', '.', 'e', 'E'] ∧ d ≠ '_' ∧ isBlank d = false := by
    decide +kernel
  intro hc
  obtain ⟨hdigit, hmark, hlow, hblank⟩ := hall c hc
  rcases h with (h | h) | h | h
  · simp [hdigit] at h
  · exact hmark h
  · exact hlow h
  · simp [hblank] at h

/-! ### Literals of a query -/

private theorem normalized_double (text : String) :
    normalized (datatype "double") text = ((Binary64.read? text).map Binary64.text).getD text := by
  rw [normalized, if_neg (by decide), if_neg (by decide), read?_double, Option.map_map]
  rfl

private theorem normalized_float (text : String) :
    normalized (datatype "float") text = ((Binary64.read? text).map Binary64.text).getD text := by
  rw [normalized, if_neg (by decide), if_neg (by decide), read?_float, Option.map_map]
  rfl

private theorem normalized_decimal (text : String) :
    normalized (datatype "decimal") text = ((Decimal.read? text).map Decimal.plain).getD text := by
  rw [normalized, if_neg (by decide), if_neg (by decide), read?_decimal, Option.map_map]
  rfl

/-- What is written for a text between quotes stands for a text without a line end that the datatype brings to it. -/
def WordFor (iri lexical word : String) : Prop :=
  numberWords iri lexical (quotedLexical lexical.toList) = quotedLexical word.toList ∧
    normalized iri word = lexical ∧ '\n' ∉ word.toList ∧ '\n' ∉ lexical.toList

instance (iri lexical word : String) : Decidable (WordFor iri lexical word) :=
  inferInstanceAs (Decidable (_ ∧ _ ∧ _ ∧ _))

/-- The words for numbers that are not finite. -/
def words : List String := ["INF", "-INF", "NaN"]

private theorem wordFor_double : WordFor (datatype "double") "inf" "INF" ∧ WordFor (datatype "double") "-inf" "-INF" ∧
    WordFor (datatype "double") "nan" "NaN" := by
  decide +kernel

private theorem wordFor_float : WordFor (datatype "float") "inf" "INF" ∧ WordFor (datatype "float") "-inf" "-INF" ∧
    WordFor (datatype "float") "nan" "NaN" := by
  decide +kernel

private theorem wordFor_decimal : WordFor (datatype "decimal") "Infinity" "INF" ∧
    WordFor (datatype "decimal") "-Infinity" "-INF" := by
  decide +kernel

section

variable {iri lexical text : String}

private theorem numberWords_of_read? (h : ∀ x, Binary64.read? lexical = some x → x.isFinite = true) :
    numberWords iri lexical (quotedLexical lexical.toList) = quotedLexical lexical.toList := by
  unfold numberWords
  split
  · split
    next hread => cases h _ hread
    next hread => cases h _ hread
    · rfl
  · rfl

private theorem numberWords_floating
    (hwords : WordFor iri "inf" "INF" ∧ WordFor iri "-inf" "-INF" ∧ WordFor iri "nan" "NaN")
    (h : lexical = ((Binary64.read? text).map Binary64.text).getD text) :
    numberWords iri lexical (quotedLexical lexical.toList) = quotedLexical lexical.toList ∨
      ∃ word ∈ words, WordFor iri lexical word := by
  cases hread : Binary64.read? text with
  | none =>
    obtain rfl : lexical = text := by rw [h, hread]; rfl
    exact .inl (numberWords_of_read? fun x hx => by rw [hread] at hx; cases hx)
  | some x =>
    obtain rfl : lexical = x.text := by rw [h, hread]; rfl
    cases x with
    | finite =>
      exact .inl (numberWords_of_forall fun c hc => notMem_wordStarts (.inl (isNumberChar_text rfl c hc)))
    | infinite negative =>
      cases negative with
      | false => exact .inr ⟨_, by decide, hwords.1⟩
      | true => exact .inr ⟨_, by decide, hwords.2.1⟩
    | notANumber => exact .inr ⟨_, by decide, hwords.2.2⟩

/-- The text of an undefined number has other letters than the words. -/
private theorem notMem_undefined {negative signaling : Bool} {payload : Nat} :
    ∀ c ∈ (Decimal.undefined negative signaling payload).plain.toList, c ∉ wordStarts := by
  have hsign : ∀ c ∈ (if negative then "-" else "").toList, c ∉ wordStarts := by
    cases negative <;> decide
  have hword : ∀ c ∈ (if signaling then "sNaN" else "NaN").toList, c ∉ wordStarts := by
    cases signaling <;> decide
  have hpayload : ∀ c ∈ (if payload = 0 then "" else payload.repr).toList, c ∉ wordStarts := by
    split
    · decide
    · intro c hc
      rw [Nat.toList_repr] at hc
      exact notMem_wordStarts (.inl (isNumberChar_of_mem_toDigits hc))
  rw [Decimal.plain, String.toList_append, String.toList_append]
  exact List.forall_mem_append.2 ⟨List.forall_mem_append.2 ⟨hsign, hword⟩, hpayload⟩

/-- The text of a literal with a datatype is written as it is, or with a word that stands for it. -/
theorem numberWords_normalized (h : lexical = normalized iri text) :
    numberWords iri lexical (quotedLexical lexical.toList) = quotedLexical lexical.toList ∨
      isFloatingType iri = true ∧ ∃ word ∈ words, WordFor iri lexical word := by
  by_cases htype : isFloatingType iri = true
  · refine Or.imp_right (And.intro htype) ?_
    simp only [isFloatingType, Bool.or_eq_true, decide_eq_true_eq] at htype
    rcases htype with (rfl | rfl) | rfl
    · exact numberWords_floating wordFor_double (h.trans (normalized_double text))
    · exact numberWords_floating wordFor_float (h.trans (normalized_float text))
    rw [normalized_decimal] at h
    cases hread : Decimal.read? text with
    | none =>
      obtain rfl : lexical = text := by rw [h, hread]; rfl
      refine .inl ?_
      by_cases hfinite : ∀ x, Binary64.read? lexical = some x → x.isFinite = true
      · exact numberWords_of_read? hfinite
      · obtain ⟨x, hx, hnot⟩ : ∃ x, Binary64.read? lexical = some x ∧ x.isFinite = false := by simpa using hfinite
        -- digits that are too many for either format
        rcases Binary64.read?_not_finite hx hnot with ⟨-, hchars⟩ | ⟨d, hd, -⟩
        · exact numberWords_of_forall fun c hc => notMem_wordStarts (hchars c hc)
        · rw [hread] at hd
          cases hd
    | some d =>
      obtain rfl : lexical = d.plain := by rw [h, hread]; rfl
      cases d with
      | finite =>
        exact .inl (numberWords_of_forall fun c hc => notMem_wordStarts (.inl (isNumberChar_plain rfl c hc)))
      | infinite negative =>
        cases negative with
        | false => exact .inr ⟨_, by decide, wordFor_decimal.1⟩
        | true => exact .inr ⟨_, by decide, wordFor_decimal.2⟩
      | undefined => exact .inl (numberWords_of_forall notMem_undefined)
  · exact .inl (if_neg htype)

/-! ### Words that are texts -/

/-- No finite number is written with a word. -/
private theorem notMem_words (h : ∀ c ∈ text.toList, IsNumberChar c) : text ∉ words := by
  have hletter : ∀ word ∈ words, 'N' ∈ word.toList := by decide
  have hother : ¬ IsNumberChar 'N' := by
    rw [IsNumberChar, not_or]
    exact ⟨by decide +kernel, by decide⟩
  exact fun hmem => hother (h _ (hletter _ hmem))

private theorem normalized_word_floating
    (hnormal : ∀ text, normalized iri text = ((Binary64.read? text).map Binary64.text).getD text)
    (h : normalized iri text ∈ words) : normalized iri (normalized iri text) = normalized iri text := by
  rw [hnormal text] at h ⊢
  cases hread : Binary64.read? text with
  | none =>
    -- a text that is no number
    rw [Option.map_none, Option.getD_none, hnormal, hread]
    rfl
  | some x =>
    refine absurd h ?_
    rw [hread, Option.map_some, Option.getD_some]
    cases x with
    | finite => exact notMem_words (isNumberChar_text rfl)
    | infinite negative => cases negative <;> decide
    | notANumber => decide

/-- A word that is the text of a literal stands for itself there. -/
theorem normalized_word (hfloating : isFloatingType iri = true) (h : normalized iri text ∈ words) :
    normalized iri (normalized iri text) = normalized iri text := by
  simp only [isFloatingType, Bool.or_eq_true, decide_eq_true_eq] at hfloating
  rcases hfloating with (rfl | rfl) | rfl
  · exact normalized_word_floating normalized_double h
  · exact normalized_word_floating normalized_float h
  rw [normalized_decimal text] at h ⊢
  cases hread : Decimal.read? text with
  | none =>
    rw [Option.map_none, Option.getD_none, normalized_decimal, hread]
    rfl
  | some d =>
    rw [hread, Option.map_some, Option.getD_some] at h
    rw [Option.map_some, Option.getD_some]
    cases d with
    | finite => exact absurd h (notMem_words (isNumberChar_plain rfl))
    | infinite negative => exact absurd h (by cases negative <;> decide)
    | undefined negative signaling payload =>
      have hword : ∀ word ∈ words, 'a' ∈ word.toList → normalized (datatype "decimal") word = word := by decide +kernel
      refine hword _ h ?_
      cases signaling <;> simp [Decimal.plain]

end

end Rdf

end PointOfFocus
