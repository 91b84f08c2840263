import PointOfFocus.Text.Digit
import PointOfFocus.Text.UpperCase
import PointOfFocus.Text.Word

/-!
# Letters and digits

The letters of the words of a query in upper and in lower case, and the digits that numbers are written with.
-/

namespace PointOfFocus.Text

/-- A statement about the characters of a list is decided on the list, not on all characters that there are. -/
instance (priority := 2000) decidableForallMemChar {p : Char → Prop} [DecidablePred p] (cs : List Char) :
    Decidable (∀ c ∈ cs, p c) := List.decidableBAll p cs

/-- The letters that words are made of. -/
def letters : List Char := "ABCDEFGHIJKLMNOPQRSTUVWXYZabcdefghijklmnopqrstuvwxyz".toList

/-- Marks that stand in no word. -/
def marks : List Char :=
  [' ', '\n', '#', '<', '"', '\'', '?', '$', '@', '.', ':', ';', '^', '/', '+', '-', ')', '\\', '\x7b', '\x7d']

/-- The letters are characters of words. -/
theorem isWord_of_mem_letters : ∀ c ∈ letters, isWord c = true := by decide +kernel

/-- The marks are no characters of words. -/
theorem isWord_of_mem_marks : ∀ c ∈ marks, isWord c = false := by decide +kernel

private theorem lt_of_toLower {c : Char} (h : c.toLower.toNat < 128) : c.toNat < 128 := by
  unfold Char.toLower at h
  split at h
  next hrange =>
    have hle := UInt32.le_iff_toNat_le.1 hrange.2
    have hz : 'Z'.val.toNat = 90 := rfl
    show c.val.toNat < 128
    omega
  · exact h

/-- A character whose lower case is a letter is a letter. -/
theorem mem_letters_of_toLower {c : Char} (h : c.toLower ∈ letters) : c ∈ letters := by
  have hsmall : ∀ d ∈ letters, d.toNat < 128 := by decide
  have hall : ∀ n : Fin 128, (Char.ofNat n).toLower ∈ letters → Char.ofNat n ∈ letters := by decide +kernel
  have hmem := hall ⟨c.toNat, lt_of_toLower (hsmall _ h)⟩
  rw [Char.ofNat_toNat] at hmem
  exact hmem h

/-- A letter of a word in lower case becomes the letter of the word in upper case. -/
private theorem upperChar_of_toLower {c d : Char} (h : c.toLower = d) (hd : d.toNat < 128) :
    upperChar c = [d.toUpper] := by
  subst h
  have hc := lt_of_toLower hd
  have hall : ∀ n : Fin 128, (Char.ofNat n).toUpper = (Char.ofNat n).toLower.toUpper := by decide +kernel
  have hupper := hall ⟨c.toNat, hc⟩
  rw [Char.ofNat_toNat] at hupper
  rw [upperChar, if_pos hc, hupper]

/-- A word that is the given one in lower case is it in upper case as well. -/
theorem upper_of_toLower {text : String} {word : List Char} (h : text.toList.map Char.toLower = word)
    (hword : ∀ d ∈ word, d.toNat < 128) : upper text = String.ofList (word.map Char.toUpper) := by
  have hchars (cs : List Char) (hcs : ∀ d ∈ cs.map Char.toLower, d.toNat < 128) :
      cs.flatMap upperChar = (cs.map Char.toLower).map Char.toUpper := by
    induction cs with
    | nil => rfl
    | cons c cs ih =>
      rw [List.map_cons, List.forall_mem_cons] at hcs
      rw [List.flatMap_cons, upperChar_of_toLower rfl hcs.1, ih hcs.2]
      rfl
  rw [upper, hchars text.toList (h ▸ hword), h]

theorem digitValue?_of_isDigit {c : Char} (h : c.isDigit = true) : digitValue? c = some (c.toNat - '0'.toNat) := by
  have hall : ∀ d : Fin 10, digitValue? (Char.ofNat (48 + d)) = some d.val := by decide +kernel
  have hrange : 48 ≤ c.toNat ∧ c.toNat ≤ 57 := by
    simp only [Char.isDigit, Bool.and_eq_true, decide_eq_true_eq, ge_iff_le, UInt32.le_iff_toNat_le] at h
    exact h
  have hvalue := hall ⟨c.toNat - 48, by omega⟩
  rwa [show 48 + (c.toNat - 48) = c.toNat by omega, Char.ofNat_toNat] at hvalue

theorem isDigit_of_mem_toDigits {n : Nat} {c : Char} (h : c ∈ Nat.toDigits 10 n) : isDigit c = true := by
  rw [isDigit, digitValue?_of_isDigit (Nat.isDigit_of_mem_toDigits (by decide) (by decide) h)]
  rfl

end PointOfFocus.Text
