import Mathlib.Algebra.Order.Ring.Nat
import Mathlib.Tactic.Ring
import Mathlib.Tactic.SplitIfs
import PointOfFocus.Number.Binary64

/-!
# The range of floating-point numbers

A fraction is too large for the floating-point format if it is at least half a unit above the largest number of the
format (`ofRatio_infinite_iff`). So a fraction that is no larger than one within the range is within the range too, and
the mean of integers is within it if they are (`ofQuotient_mean`).
-/

namespace PointOfFocus.Number

/-! ### Logarithms of fractions -/

private theorem log2_bounds {n : Nat} (h : n ≠ 0) : 2 ^ n.log2 ≤ n ∧ n < 2 ^ (n.log2 + 1) :=
  ⟨Nat.log2_self_le h, Nat.lt_log2_self⟩

private theorem scaled_neg (num den k : Nat) : scaled 2 num den (-(k : Int)) = (num, den * 2 ^ k) := by
  cases k with
  | zero => simp [scaled]
  | succ k => rfl

/-- The logarithm of a fraction is the difference of the logarithms or one less. -/
private theorem floorLog2_cases (num den : Nat) {e : Int} (he : (num.log2 : Int) - den.log2 = e) :
    floorLog2 num den = e ∧ (scaled 2 num den (-e)).2 ≤ (scaled 2 num den (-e)).1 ∨
      floorLog2 num den = e - 1 ∧ (scaled 2 num den (-e)).1 < (scaled 2 num den (-e)).2 := by
  subst he
  unfold floorLog2
  by_cases h : (scaled 2 num den (-((num.log2 : Int) - den.log2))).2 ≤
      (scaled 2 num den (-((num.log2 : Int) - den.log2))).1
  · exact .inl ⟨if_pos h, h⟩
  · exact .inr ⟨if_neg h, Nat.lt_of_not_le h⟩

/-- A power of two is at most a fraction if and only if its exponent is at most the logarithm. -/
theorem le_floorLog2_iff {num den : Nat} (hnum : num ≠ 0) (hden : den ≠ 0) (k : Nat) :
    (k : Int) ≤ floorLog2 num den ↔ den * 2 ^ k ≤ num := by
  obtain ⟨hnumLow, hnumHigh⟩ := log2_bounds hnum
  obtain ⟨hdenLow, hdenHigh⟩ := log2_bounds hden
  have hcases := floorLog2_cases num den rfl
  rcases lt_trichotomy (k : Int) (num.log2 - den.log2) with hk | hk | hk
  · have hle : den * 2 ^ k ≤ num := by
      calc den * 2 ^ k ≤ 2 ^ (den.log2 + 1) * 2 ^ k := Nat.mul_le_mul_right _ hdenHigh.le
        _ = 2 ^ (den.log2 + 1 + k) := (Nat.pow_add _ _ _).symm
        _ ≤ 2 ^ num.log2 := Nat.pow_le_pow_right (by omega) (by omega)
        _ ≤ num := hnumLow
    exact iff_of_true (by omega) hle
  · rw [← hk, scaled_neg] at hcases
    simp only at hcases
    omega
  · have hlt : num < den * 2 ^ k := by
      calc num < 2 ^ (num.log2 + 1) := hnumHigh
        _ ≤ 2 ^ (den.log2 + k) := Nat.pow_le_pow_right (by omega) (by omega)
        _ = 2 ^ den.log2 * 2 ^ k := Nat.pow_add _ _ _
        _ ≤ den * 2 ^ k := Nat.mul_le_mul_right _ hdenLow
    exact iff_of_false (by omega) (by omega)

/-! ### Overflow -/

/-- Rounding gives at least an even number exactly from half a unit below it. -/
private theorem le_roundDiv_iff {num den n : Nat} (hden : den ≠ 0) (hn : n % 2 = 0) (hpos : 0 < n) :
    n ≤ roundDiv num den ↔ den * (2 * n - 1) ≤ 2 * num := by
  have hsplit := Nat.div_add_mod num den
  have hrest := Nat.mod_lt num (Nat.pos_of_ne_zero hden)
  unfold roundDiv
  generalize num / den = q at hsplit
  generalize num % den = r at hsplit hrest
  simp only
  rcases Nat.lt_trichotomy (q + 1) n with hq | hq | hq
  · have hgap : den * (2 * q + 3) ≤ den * (2 * n - 1) := Nat.mul_le_mul_left _ (by omega)
    have hunit : den * (2 * q + 3) = 2 * (den * q) + 3 * den := by ring
    refine iff_of_false ?_ (by omega)
    split_ifs <;> omega
  · -- the tie goes to the even number, which is the one above
    have hunit : den * (2 * n - 1) = 2 * (den * q) + den := by
      rw [show 2 * n - 1 = 2 * q + 1 by omega]
      ring
    rw [hunit]
    split_ifs <;> omega
  · have hgap : den * (2 * n - 1) ≤ den * (2 * q) := Nat.mul_le_mul_left _ (by omega)
    have hunit : den * (2 * q) = 2 * (den * q) := by ring
    refine iff_of_true ?_ (by omega)
    split_ifs <;> omega

private theorem roundDiv_le {num den n : Nat} (h : num < den * n) : roundDiv num den ≤ n := by
  have hlt : num / den < n := Nat.div_lt_of_lt_mul h
  unfold roundDiv
  simp only
  split_ifs <;> omega

namespace Binary64

/-- The least number that is too large for the format: half a unit above the largest number of the format. -/
def overflowBound : Nat := (2 ^ 54 - 1) * 2 ^ 970

/-- A rounded fraction is too large by its exponent, or because the mantissa is carried over. -/
theorem ofRatio_infinite_iff_carried {negative : Bool} {num den : Nat} {e : Int} (hnum : num ≠ 0)
    (he : max (floorLog2 num den - 52) minExponent = e) :
    ofRatio negative num den = .infinite negative ↔ maxExponent < e ∨
      maxExponent = e ∧ roundDiv (scaled 2 num den (-e)).1 (scaled 2 num den (-e)).2 = Nat.pow 2 53 := by
  unfold ofRatio
  simp only [if_neg hnum, he]
  by_cases hcarry : roundDiv (scaled 2 num den (-e)).1 (scaled 2 num den (-e)).2 = Nat.pow 2 53
  · simp only [hcarry, ↓reduceIte, ite_eq_left_iff, reduceCtorEq, imp_false, not_not, and_true]
    omega
  · simp only [hcarry, ↓reduceIte, ite_eq_left_iff, reduceCtorEq, imp_false, not_not, and_false, or_false]

/-- A number as large as the bound, and none below it, is too large. -/
theorem ofRatio_infinite_iff {negative : Bool} {num den : Nat} (hden : den ≠ 0) :
    ofRatio negative num den = .infinite negative ↔ den * overflowBound ≤ num := by
  -- the bound and the powers of two around it are multiples of one unit, whose size does not matter
  obtain ⟨k, hk⟩ : ∃ k, k = 970 := ⟨970, rfl⟩
  have hcarry : den * 2 ^ (k + 1) = 2 * (den * 2 ^ k) := by ring
  have hlow : den * 2 ^ (k + 53) = 2 ^ 53 * (den * 2 ^ k) := by ring
  have hhigh : den * 2 ^ (k + 54) = 2 ^ 54 * (den * 2 ^ k) := by ring
  have hbound : den * overflowBound = (2 ^ 54 - 1) * (den * 2 ^ k) := by
    rw [overflowBound, ← hk]
    ring
  have hpos : 0 < den * 2 ^ k := Nat.mul_pos (Nat.pos_of_ne_zero hden) (Nat.two_pow_pos k)
  rw [hbound]
  by_cases hnum : num = 0
  · subst hnum
    exact iff_of_false (by simp [ofRatio]) (by omega)
  have h1023 := le_floorLog2_iff hnum hden (k + 53)
  have h1024 := le_floorLog2_iff hnum hden (k + 54)
  rw [hlow] at h1023
  rw [hhigh] at h1024
  rcases lt_trichotomy (floorLog2 num den) 1023 with hlog | hlog | hlog
  · rw [ofRatio_infinite_iff_carried hnum rfl]
    simp only [maxExponent, minExponent]
    omega
  · have he : max (floorLog2 num den - 52) minExponent = ((k + 1 : Nat) : Int) := by
      simp only [minExponent]
      omega
    rw [ofRatio_infinite_iff_carried hnum he, scaled_neg, hcarry]
    generalize den * 2 ^ k = unit at hpos h1023 h1024
    have hround := @le_roundDiv_iff num (2 * unit) (2 ^ 53) (by omega) (by decide) (by decide)
    have hle := @roundDiv_le num (2 * unit) (2 ^ 53) (by omega)
    have hmantissa : Nat.pow 2 53 = 2 ^ 53 := rfl
    simp only [maxExponent, hmantissa]
    omega
  · rw [ofRatio_infinite_iff_carried hnum rfl]
    simp only [maxExponent, minExponent]
    omega

/-- An infinite quotient has the sign that it was given. -/
theorem sign_of_ofRatio {negative sign : Bool} {num den : Nat} (h : ofRatio negative num den = .infinite sign) :
    sign = negative := by
  unfold ofRatio at h
  simp only at h
  split_ifs at h
  all_goals cases h; rfl

/-- The integer is not too large for the format. -/
def InRange (n : Int) : Prop := ∀ sign, ofInt n ≠ .infinite sign

private theorem InRange.natAbs_lt {n : Int} (h : InRange n) : n.natAbs < overflowBound := by
  by_contra hlarge
  exact h _ ((ofRatio_infinite_iff one_ne_zero).2 (by omega))

private theorem natAbs_sum_lt {bound : Nat} {counts : List Int} (h : ∀ n ∈ counts, n.natAbs < bound) :
    counts.sum.natAbs + counts.length ≤ counts.length * bound := by
  induction counts with
  | nil => simp
  | cons n counts ih =>
    obtain ⟨hn, hcounts⟩ := List.forall_mem_cons.1 h
    have hrest := ih hcounts
    rw [List.sum_cons, List.length_cons, Nat.succ_mul]
    omega

/-- The mean of integers that are not too large is not too large. -/
theorem ofQuotient_mean {counts : List Int} (hne : counts ≠ []) (h : ∀ n ∈ counts, InRange n) (sign : Bool) :
    ofQuotient counts.sum counts.length ≠ .infinite sign := by
  intro hinfinite
  have hlength : counts.length ≠ 0 := fun hzero => hne (List.eq_nil_of_length_eq_zero hzero)
  have hlarge := hinfinite
  rw [ofQuotient, sign_of_ofRatio hinfinite, ofRatio_infinite_iff hlength] at hlarge
  have hsum := natAbs_sum_lt fun n hn => (h n hn).natAbs_lt
  omega

end Binary64

end PointOfFocus.Number
