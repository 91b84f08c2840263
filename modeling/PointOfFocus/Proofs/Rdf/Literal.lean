import Mathlib.Data.List.TakeWhile
import PointOfFocus.Proofs.Text.Escape
import PointOfFocus.Proofs.Text.Letter
import PointOfFocus.Rdf.Literal

/-!
# Literals that denote numbers

A text that is read as an infinite or undefined floating-point number is a word that means no finite decimal number
either, or it is written with digits: a decimal number can be too large for the floating-point format and count as
infinite there (`Binary64.read?_not_finite`). A literal is steady if it is on one line, denotes no such number, and does
not change when it is built from its parts again.
-/

namespace PointOfFocus

open PointOfFocus.Number
open PointOfFocus.Text

/-! ### Characters of numbers -/

namespace Number

/-- The character is a digit or stands among the digits of a number. -/
def IsNumberChar (c : Char) : Prop := isDigit c = true ∨ c ∈ ['+', '-', '.', 'e', 'E']

private theorem isNumberChar_sign {c : Char} (h : c ∈ ['+', '-']) : IsNumberChar c := by
  have hsigns : ∀ d ∈ ['+', '-'], d ∈ ['+', '-', '.', 'e', 'E'] := by decide
  exact .inr (hsigns c h)

private theorem mem_splitSign {cs : List Char} {c : Char} (h : c ∈ cs) : c ∈ (splitSign cs).2 ∨ c ∈ ['+', '-'] := by
  unfold splitSign
  split
  · rcases List.mem_cons.1 h with rfl | h
    · exact .inr (by decide)
    · exact .inl h
  · rcases List.mem_cons.1 h with rfl | h
    · exact .inr (by decide)
    · exact .inl h
  · exact .inl h

private theorem exponent?_chars {cs : List Char} {shift : Int} (h : exponent? cs = some shift) :
    ∀ c ∈ cs, IsNumberChar c := by
  unfold exponent? at h
  split at h
  · simp
  next c cs =>
    split at h
    next hletter =>
      dsimp only at h
      split at h
      next hdigits =>
        simp only [Bool.and_eq_true, List.all_eq_true] at hdigits
        refine List.forall_mem_cons.2 ⟨.inr ?_, fun d hd => ?_⟩
        · simp only [Bool.or_eq_true, decide_eq_true_eq] at hletter
          rcases hletter with rfl | rfl <;> decide
        · rcases mem_splitSign hd with hd | hd
          · exact .inl (hdigits.2 d hd)
          · exact isNumberChar_sign hd
      · cases h
    · cases h

private theorem Scientific.read?_chars {cs : List Char} {x : Scientific} (h : Scientific.read? cs = some x) :
    ∀ c ∈ cs, IsNumberChar c := by
  unfold Scientific.read? at h
  dsimp only at h
  have hdigits : ∀ l : List Char, ∀ c ∈ l.takeWhile isDigit, IsNumberChar c :=
    fun l c hc => .inl (List.mem_takeWhile_imp hc)
  have hrun : ∀ l : List Char, (∀ c ∈ l.dropWhile isDigit, IsNumberChar c) → ∀ c ∈ l, IsNumberChar c := by
    intro l hl c hc
    rw [← List.takeWhile_append_dropWhile (p := isDigit) (l := l)] at hc
    exact (List.mem_append.1 hc).elim (hdigits l c) (hl c)
  have hbody : ∀ c ∈ (splitSign cs).2, IsNumberChar c := by
    refine hrun _ ?_
    split at h
    next rest hrest =>
      split at h
      · cases h
      · obtain ⟨shift, hshift, _⟩ := Option.bind_eq_some_iff.1 h
        rw [hrest]
        exact List.forall_mem_cons.2 ⟨.inr (by decide), hrun rest (exponent?_chars hshift)⟩
    · split at h
      · cases h
      · obtain ⟨shift, hshift, _⟩ := Option.bind_eq_some_iff.1 h
        exact exponent?_chars hshift
  intro c hc
  rcases mem_splitSign hc with hc | hc
  · exact hbody c hc
  · exact isNumberChar_sign hc

private theorem dropSeparators?_chars {cs after : List Char} (h : Binary64.dropSeparators? cs = some after) :
    ∀ c ∈ cs, c ∈ after ∨ c = '_' := by
  fun_induction Binary64.dropSeparators? cs generalizing after with
  | case1 => simp
  | case2 c d cs _ ih =>
    obtain ⟨rest, hrest, rfl⟩ := Option.map_eq_some_iff.1 h
    have hih := ih hrest
    intro e he
    rcases List.mem_cons.1 he with rfl | he
    · exact .inl List.mem_cons_self
    rcases List.mem_cons.1 he with rfl | he
    · exact .inr rfl
    · exact (hih e he).imp_left (List.mem_cons_of_mem _)
  | case3 => cases h
  | case4 => cases h
  | case5 c cs _ _ ih =>
    obtain ⟨rest, hrest, rfl⟩ := Option.map_eq_some_iff.1 h
    have hih := ih hrest
    intro e he
    rcases List.mem_cons.1 he with rfl | he
    · exact .inl List.mem_cons_self
    · exact (hih e he).imp_left (List.mem_cons_of_mem _)

/-- A text without digits has no separators to be dropped. -/
private theorem dropSeparators?_word {cs after : List Char} (h : Binary64.dropSeparators? cs = some after)
    (hdigit : ∀ c ∈ after, isDigit c = false) : cs = after ∧ '_' ∉ cs := by
  fun_induction Binary64.dropSeparators? cs generalizing after with
  | case1 => cases h; simp
  | case2 c d cs hdigits ih =>
    obtain ⟨rest, hrest, rfl⟩ := Option.map_eq_some_iff.1 h
    have hc := hdigit c List.mem_cons_self
    simp [hc] at hdigits
  | case3 => cases h
  | case4 => cases h
  | case5 c cs _ hc ih =>
    obtain ⟨rest, hrest, rfl⟩ := Option.map_eq_some_iff.1 h
    obtain ⟨rfl, hlow⟩ := ih hrest fun d hd => hdigit d (List.mem_cons_of_mem _ hd)
    exact ⟨rfl, fun hmem => (List.mem_cons.1 hmem).elim (fun h => hc h.symm) hlow⟩

/-- The text is its core with padding on both sides. -/
private theorem trimPadding_parts (cs : List Char) : ∃ before after, cs = before ++ trimPadding cs ++ after ∧
    (∀ c ∈ before, isPadding c = true) ∧ ∀ c ∈ after, isPadding c = true := by
  refine ⟨cs.takeWhile isPadding, ((cs.dropWhile isPadding).reverse.takeWhile isPadding).reverse, ?_, ?_, ?_⟩
  · rw [trimPadding, List.append_assoc, ← List.reverse_append, List.takeWhile_append_dropWhile, List.reverse_reverse,
      List.takeWhile_append_dropWhile]
  · exact fun c hc => List.mem_takeWhile_imp hc
  · intro c hc
    exact List.mem_takeWhile_imp (List.mem_reverse.1 hc)

private theorem isBlank_of_isPadding {c : Char} (h : isPadding c = true) : isBlank c = true := by
  simp only [isPadding, Bool.and_eq_true] at h
  exact h.1

private theorem dropBlanks_append {before core : List Char} (hbefore : ∀ c ∈ before, isBlank c = true)
    (hcore : ∀ c ∈ core.head?, isBlank c = false) : dropBlanks (before ++ core) = core := by
  rw [dropBlanks, List.dropWhile_append_of_pos hbefore]
  cases core with
  | nil => rfl
  | cons c core => rw [List.dropWhile_cons_of_neg (by simp [hcore c rfl])]

/-- A core without blanks is what trimming leaves. -/
private theorem trimBlanks_append {before core after : List Char} (hbefore : ∀ c ∈ before, isBlank c = true)
    (hafter : ∀ c ∈ after, isBlank c = true) (hcore : ∀ c ∈ core, isBlank c = false) (hne : core ≠ []) :
    trimBlanks (before ++ core ++ after) = core := by
  have hleft : dropBlanks (before ++ (core ++ after)) = core ++ after := by
    refine dropBlanks_append hbefore fun c hc => ?_
    obtain ⟨d, ds, rfl⟩ := List.exists_cons_of_ne_nil hne
    cases hc
    exact hcore c List.mem_cons_self
  have hright : dropBlanks (after.reverse ++ core.reverse) = core.reverse := by
    refine dropBlanks_append (fun c hc => hafter c (List.mem_reverse.1 hc)) fun c hc => ?_
    exact hcore c (List.mem_reverse.1 (List.mem_of_head? hc))
  rw [trimBlanks, List.append_assoc, hleft, dropBlanksRight, List.reverse_append]
  show (dropBlanks _).reverse = _
  rw [hright, List.reverse_reverse]

/-! ### Values that are no finite numbers -/

/-- Whether the value is a finite number. -/
def Binary64.isFinite : Binary64 → Bool
  | .finite _ _ _ => true
  | _ => false

/-- Whether the decimal is a finite number. -/
def Decimal.isFinite : Decimal → Bool
  | .finite _ => true
  | _ => false

private theorem Binary64.ofScientific_ne (x : Scientific) : ofScientific x ≠ .notANumber := by
  have hratio : ∀ negative num den, ofRatio negative num den ≠ .notANumber := by
    intro negative num den
    unfold ofRatio
    dsimp only
    repeat' split
    all_goals exact fun h => nomatch h
  unfold ofScientific
  dsimp only
  repeat' split
  all_goals first | exact hratio _ _ _ | exact fun h => nomatch h

/-- The characters of a word for a value that is no number are letters. -/
private theorem letters_of_special {negative : Bool} {cs : List Char} {x : Binary64}
    (h : Binary64.special? negative cs = some x) : cs ≠ [] ∧ ∀ c ∈ cs, c ∈ letters := by
  have hword : lowerAscii cs ∈ ["inf".toList, "infinity".toList, "nan".toList] := by
    unfold Binary64.special? at h
    dsimp only at h
    split at h
    next hinf =>
      simp only [Bool.or_eq_true, decide_eq_true_eq] at hinf
      rcases hinf with hinf | hinf <;> simp [hinf]
    · split at h
      next hnan => simp [hnan]
      · cases h
  have hletters : ∀ word ∈ ["inf".toList, "infinity".toList, "nan".toList], word ≠ [] ∧ ∀ c ∈ word, c ∈ letters := by
    decide
  obtain ⟨hne, hmem⟩ := hletters _ hword
  refine ⟨fun hnil => hne (by rw [hnil]; rfl), fun c hc => mem_letters_of_toLower (hmem _ ?_)⟩
  exact List.mem_map_of_mem hc

/-- A word for a value that is no number means such a value of the decimals too. -/
private theorem specialDecimal?_of_special {negative : Bool} {cs : List Char} {x : Binary64}
    (h : Binary64.special? negative cs = some x) :
    ∃ d, specialDecimal? negative cs = some d ∧ d.isFinite = false := by
  have hdigit : ∀ c ∈ letters, (!isDigit c) = true := by decide +kernel
  have hcs : ∀ c ∈ cs, (!isDigit c) = true := fun c hc => hdigit c ((letters_of_special h).2 c hc)
  have htake : cs.takeWhile (!isDigit ·) = cs := List.takeWhile_eq_self_iff.2 hcs
  have hdrop : cs.dropWhile (!isDigit ·) = [] := List.dropWhile_eq_nil_iff.2 hcs
  unfold Binary64.special? at h
  dsimp only at h
  simp only [specialDecimal?, htake, hdrop, List.isEmpty_nil, Bool.true_and, List.all_nil, ↓reduceIte]
  split at h
  next hinf => exact ⟨.infinite negative, by rw [if_pos hinf], rfl⟩
  next hinf =>
    split at h
    next hnan => exact ⟨.undefined negative false 0, by rw [if_neg hinf, if_pos hnan]; rfl, rfl⟩
    · cases h

/-- A text that is read as no finite number is written with digits and counts as infinite, or means no finite decimal
either. -/
theorem Binary64.read?_not_finite {text : String} {x : Binary64} (h : Binary64.read? text = some x)
    (hx : x.isFinite = false) :
    (∃ negative, x = .infinite negative) ∧ (∀ c ∈ text.toList, IsNumberChar c ∨ c = '_' ∨ isBlank c = true) ∨
      ∃ d, Decimal.read? text = some d ∧ d.isFinite = false := by
  obtain ⟨before, after, htext, hbefore, hafter⟩ := trimPadding_parts text.toList
  obtain ⟨cs, hcs, h⟩ := Option.bind_eq_some_iff.1 h
  cases hnumber : Scientific.read? cs with
  | some y =>
    rw [hnumber] at h
    cases h
    refine .inl ⟨?_, fun c hc => ?_⟩
    · cases hvalue : Binary64.ofScientific y with
      | finite => rw [hvalue] at hx; cases hx
      | infinite negative => exact ⟨negative, rfl⟩
      | notANumber => exact absurd hvalue (Binary64.ofScientific_ne y)
    · rw [htext] at hc
      rcases List.mem_append.1 hc with hc | hc
      · rcases List.mem_append.1 hc with hc | hc
        · exact .inr (.inr (isBlank_of_isPadding (hbefore c hc)))
        · rcases dropSeparators?_chars hcs c hc with hc | hc
          · exact .inl (Scientific.read?_chars hnumber c hc)
          · exact .inr (.inl hc)
      · exact .inr (.inr (isBlank_of_isPadding (hafter c hc)))
  | none =>
    rw [hnumber] at h
    -- the text is a sign and a word, so that neither separators nor other blanks than padding are dropped
    have hspecial : Binary64.special? (splitSign cs).1 (splitSign cs).2 = some x := h
    obtain ⟨hne, hletters⟩ := letters_of_special hspecial
    have hclass : ∀ c ∈ letters ++ ['+', '-'], isDigit c = false ∧ isBlank c = false := by decide +kernel
    have hchars : ∀ c ∈ cs, isDigit c = false ∧ isBlank c = false := fun c hc =>
      hclass c (List.mem_append.2 ((mem_splitSign hc).imp_left (hletters c)))
    obtain ⟨hcore, hlow⟩ := dropSeparators?_word hcs fun c hc => (hchars c hc).1
    rw [hcore] at htext hlow
    have hcsne : cs ≠ [] := by
      rintro rfl
      exact hne rfl
    have htrim : trimBlanks text.toList = cs := by
      rw [htext]
      exact trimBlanks_append (fun c hc => isBlank_of_isPadding (hbefore c hc))
        (fun c hc => isBlank_of_isPadding (hafter c hc)) (fun c hc => (hchars c hc).2) hcsne
    have hfilter : cs.filter (· ≠ '_') = cs := by
      refine List.filter_eq_self.2 fun c hc => ?_
      exact decide_eq_true fun heq => hlow (heq ▸ hc)
    obtain ⟨d, hd, hfinite⟩ := specialDecimal?_of_special hspecial
    refine .inr ⟨d, ?_, hfinite⟩
    simp only [Decimal.read?, htrim, hfilter, hnumber]
    exact hd

end Number

/-! ### Literals -/

namespace Rdf

/-- Whether the value is no infinite or undefined number. -/
def LiteralValue.isFinite : LiteralValue → Bool
  | .float x => x.isFinite
  | .decimal d => d.isFinite
  | _ => true

theorem read?_double (text : String) :
    LiteralValue.read? (datatype "double") text = (Binary64.read? text).map .float := rfl

theorem read?_float (text : String) :
    LiteralValue.read? (datatype "float") text = (Binary64.read? text).map .float := rfl

theorem read?_decimal (text : String) :
    LiteralValue.read? (datatype "decimal") text = (Decimal.read? text).map .decimal := rfl

/-- The literal is on one line, denotes no infinite or undefined number, and building it from its parts gives it again. -/
structure Literal.IsSteady (l : Literal) : Prop where
  line : '\n' ∉ l.lexical.toList
  finite : ∀ v, l.value? = some v → v.isFinite = true
  rebuilt : ∀ iri, l.qualifier = .datatype iri → Literal.typed l.lexical iri = l

end Rdf

end PointOfFocus
