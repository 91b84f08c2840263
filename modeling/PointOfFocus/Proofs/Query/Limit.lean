import Mathlib.Algebra.Group.Nat.Defs
import PointOfFocus.Proofs.Query.Soundness
import PointOfFocus.Proofs.Query.Totality
import PointOfFocus.Proofs.Text.Letter
import PointOfFocus.Query.Limit

/-!
# The last limit wins

Setting the limit of a query replaces its clauses or adds one. Either way the text has a clause afterwards, and all its
clauses carry the new number. Setting another limit then leaves no trace of the first one (`setLimit_latest`).

Two facts carry this. Replacing copies every character outside the clauses, and what it puts in starts with a letter that
no clause has after its first character; so a clause of the new text that is not a new one was a clause of the old text
(`afterClause?_replaceClauses`). And no clause runs over a character such as the line end before an added clause, so the
two sides of it are replaced each for itself (`replaceClauses_append_cons`).
-/

namespace PointOfFocus.Query

open PointOfFocus.Number (isShort maxDigits writeInteger)
open PointOfFocus.Text

/-! ### The parts of a clause -/

/-- Whether a word character stands right after the text is read; `inWord` tells it of what stands before the text. -/
def inWordAfter (inWord : Bool) (cs : List Char) : Bool :=
  cs.foldl (fun _ c => isWord c) inWord

/-- The three texts make up a limit clause. -/
structure IsClause (word blanks digits : List Char) : Prop where
  isLetter_word : List.Forall₂ (fun letter c => isLetter letter c = true) "limit".toList word
  blanks_ne : blanks ≠ []
  isBlank_blanks : ∀ c ∈ blanks, isBlank c = true
  digits_ne : digits ≠ []
  isDigit_digits : ∀ c ∈ digits, isDigit c = true

/-- The text has a limit clause with these digits, and no word character stands right before or right after the
clause. -/
def LimitedBy (inWord : Bool) (cs digits : List Char) : Prop :=
  ∃ before word blanks after, cs = before ++ (word ++ (blanks ++ (digits ++ after))) ∧ IsClause word blanks digits ∧
    inWordAfter inWord before = false ∧ startsInWord after = false

private theorem isWord_of_isDigit {c : Char} (h : isDigit c = true) : isWord c = true := by
  -- the two tables are compared by `Nat.ble`, as the kernel computes it on numerals; the instances of `≤` take far longer
  have hinside : (digitZeros.all fun first => wordRanges.any fun range =>
      range.1.ble first && (first + 9).ble range.2) = true := by decide +kernel
  obtain ⟨value, hvalue⟩ := Option.isSome_iff_exists.1 h
  obtain ⟨first, hfirst, -⟩ := Option.map_eq_some_iff.1 hvalue
  have hin := List.find?_some hfirst
  obtain ⟨range, hrange, hbounds⟩ :=
    List.any_eq_true.1 (List.all_eq_true.1 hinside first (List.mem_of_find?_eq_some hfirst))
  refine List.any_eq_true.2 ⟨range, hrange, ?_⟩
  simp only [Bool.and_eq_true, decide_eq_true_eq, Nat.ble_eq] at hin hbounds ⊢
  omega

theorem isWord_of_isBlank {c : Char} (h : isBlank c = true) : isWord c = false := by
  have hapart : (blankRanges.all fun blank => wordRanges.all fun range =>
      blank.2.blt range.1 || range.2.blt blank.1) = true := by decide +kernel
  obtain ⟨blank, hblank, hc⟩ := List.any_eq_true.1 h
  rw [Bool.eq_false_iff]
  intro hword
  obtain ⟨range, hrange, hc'⟩ := List.any_eq_true.1 hword
  have := List.all_eq_true.1 (List.all_eq_true.1 hapart blank hblank) range hrange
  simp only [Bool.and_eq_true, Bool.or_eq_true, decide_eq_true_eq, Nat.blt_eq] at hc hc' this
  omega

private theorem isLetter_cases {letter c : Char} (h : isLetter letter c = true) (hletter : letter ∈ letters) :
    c ∈ letters ∧ c.toLower = letter ∨ c = '\u0130' ∨ c = '\u0131' := by
  simp only [isLetter, Bool.or_eq_true, Bool.and_eq_true, decide_eq_true_eq] at h
  rcases h with rfl | ⟨-, h⟩
  · exact .inl ⟨mem_letters_of_toLower hletter, rfl⟩
  · exact .inr h

theorem isLetter_of_isDigit {letter c : Char} (h : isDigit c = true) (hletter : letter ∈ letters) :
    isLetter letter c = false := by
  have hletters : ∀ d ∈ '\u0130' :: '\u0131' :: letters, isDigit d = false := by decide
  rw [Bool.eq_false_iff]
  intro hc
  have hmem : c ∈ '\u0130' :: '\u0131' :: letters := by
    rcases isLetter_cases hc hletter with ⟨hc, -⟩ | rfl | rfl
    · simp [hc]
    · simp
    · simp
  rw [hletters c hmem] at h
  cases h

private theorem isWord_of_isLetter {letter c : Char} (h : isLetter letter c = true) (hletter : letter ∈ letters) :
    isWord c = true := by
  have hturkish : ∀ d ∈ ['\u0130', '\u0131'], isWord d = true := by decide
  rcases isLetter_cases h hletter with ⟨hc, -⟩ | rfl | rfl
  · exact isWord_of_mem_letters c hc
  · exact hturkish _ (by simp)
  · exact hturkish _ (by simp)

variable {word blanks digits rest : List Char}

/-- The word of a limit clause has five letters, in any case. -/
theorem IsClause.word_eq (h : IsClause word blanks digits) : ∃ l i m i' t, word = [l, i, m, i', t] ∧
    isLetter 'l' l = true ∧ isLetter 'i' i = true ∧ isLetter 'm' m = true ∧ isLetter 'i' i' = true ∧
    isLetter 't' t = true := by
  have hletters := h.isLetter_word
  have hlimit : "limit".toList = ['l', 'i', 'm', 'i', 't'] := rfl
  simp only [hlimit, List.forall₂_cons_left_iff, List.forall₂_nil_left_iff] at hletters
  obtain ⟨l, _, hl, ⟨i, _, hi, ⟨m, _, hm, ⟨i', _, hi', ⟨t, _, ht, rfl, rfl⟩, rfl⟩, rfl⟩, rfl⟩, rfl⟩ := hletters
  exact ⟨l, i, m, i', t, rfl, hl, hi, hm, hi', ht⟩

theorem IsClause.isWord_word (h : IsClause word blanks digits) : ∀ c ∈ word, isWord c = true := by
  obtain ⟨l, i, m, i', t, rfl, hl, hi, hm, hi', ht⟩ := h.word_eq
  have hletters : ∀ letter ∈ "limit".toList, letter ∈ letters := by decide
  simp only [List.forall_mem_cons]
  exact ⟨isWord_of_isLetter hl (hletters _ (by decide)), isWord_of_isLetter hi (hletters _ (by decide)),
    isWord_of_isLetter hm (hletters _ (by decide)), isWord_of_isLetter hi' (hletters _ (by decide)),
    isWord_of_isLetter ht (hletters _ (by decide)), by simp⟩

theorem IsClause.isWord_digits (h : IsClause word blanks digits) : ∀ c ∈ digits, isWord c = true :=
  fun c hc => isWord_of_isDigit (h.isDigit_digits c hc)

/-! ### Finding a clause at the start of a text -/

private theorem afterWord?_eq_some_iff {letters cs : List Char} : afterWord? letters cs = some rest ↔
    ∃ word, cs = word ++ rest ∧ List.Forall₂ (fun letter c => isLetter letter c = true) letters word := by
  induction letters generalizing cs with
  | nil => simp [afterWord?]
  | cons letter letters ih =>
    cases cs with
    | nil => simp [afterWord?, List.forall₂_cons_left_iff]
    | cons c cs =>
      rw [afterWord?, ite_eq_iff]
      simp only [ih, List.forall₂_cons_left_iff]
      constructor
      · rintro (⟨hc, word, rfl, hword⟩ | ⟨-, h⟩)
        · exact ⟨c :: word, rfl, c, word, hc, hword, rfl⟩
        · cases h
      · rintro ⟨_, hcs, d, word, hd, hword, rfl⟩
        obtain ⟨rfl, rfl⟩ := List.cons.inj hcs
        exact .inl ⟨hd, word, rfl, hword⟩

private theorem afterRun?_eq_some_iff {kind : Char → Bool} {cs : List Char} : afterRun? kind cs = some rest ↔
    ∃ run, cs = run ++ rest ∧ run ≠ [] ∧ (∀ c ∈ run, kind c = true) ∧ ∀ c ∈ rest.head?, kind c = false := by
  constructor
  · intro h
    cases cs with
    | nil => cases h
    | cons c cs =>
      rw [afterRun?, ite_eq_iff] at h
      obtain ⟨hc, hrest⟩ | ⟨-, h⟩ := h
      · obtain rfl := Option.some.inj hrest
        refine ⟨c :: cs.takeWhile kind, ?_, by simp, ?_, ?_⟩
        · rw [List.cons_append, List.takeWhile_append_dropWhile]
        · exact List.forall_mem_cons.2 ⟨hc, fun d hd => List.mem_takeWhile_imp hd⟩
        · intro d hd
          have hhead := List.head?_dropWhile_not kind cs
          rw [hd] at hhead
          simpa using hhead
      · cases h
  · rintro ⟨run, rfl, hne, hrun, hhead⟩
    obtain ⟨c, run, rfl⟩ := List.exists_cons_of_ne_nil hne
    obtain ⟨hc, hrun⟩ := List.forall_mem_cons.1 hrun
    have hdrop : rest.dropWhile kind = rest := by
      cases rest with
      | nil => rfl
      | cons d rest => rw [List.dropWhile_cons_of_neg (by simp [hhead d rfl])]
    rw [List.cons_append, afterRun?, if_pos hc, List.dropWhile_append_of_pos hrun, hdrop]

private theorem isDigit_head_of_startsInWord (h : startsInWord rest = false) : ∀ c ∈ rest.head?, isDigit c = false := by
  cases rest with
  | nil => simp
  | cons d rest =>
    rintro c ⟨⟩
    rw [Bool.eq_false_iff]
    intro hc
    rw [startsInWord, isWord_of_isDigit hc] at h
    cases h

private theorem isBlank_head_of_digits (h : IsClause word blanks digits) :
    ∀ c ∈ (digits ++ rest).head?, isBlank c = false := by
  obtain ⟨d, digits, rfl⟩ := List.exists_cons_of_ne_nil h.digits_ne
  rintro _ ⟨⟩
  exact isBlank_of_isDigit (h.isDigit_digits d (by simp))

/-- What is found at the start of a text is a clause, and every clause there is found. -/
theorem afterClause?_eq_some_iff {inWord : Bool} {cs : List Char} : afterClause? inWord cs = some rest ↔
    inWord = false ∧ ∃ word blanks digits, cs = word ++ (blanks ++ (digits ++ rest)) ∧ IsClause word blanks digits ∧
      startsInWord rest = false := by
  rw [afterClause?, ite_eq_iff]
  simp only [Option.filter_eq_some_iff, Option.bind_eq_some_iff, afterWord?_eq_some_iff, afterRun?_eq_some_iff]
  constructor
  · rintro (⟨-, h⟩ | ⟨hout, ⟨_, ⟨_, ⟨word, rfl, hword⟩, blanks, rfl, hbne, hblanks, -⟩, digits, rfl, hdne, hdigits, -⟩,
      hrest⟩)
    · cases h
    · exact ⟨by simpa using hout, word, blanks, digits, rfl, ⟨hword, hbne, hblanks, hdne, hdigits⟩, by simpa using hrest⟩
  · rintro ⟨hout, word, blanks, digits, rfl, hclause, hrest⟩
    exact .inr ⟨by simp [hout], ⟨digits ++ rest, ⟨blanks ++ (digits ++ rest), ⟨word, rfl, hclause.isLetter_word⟩, blanks,
      rfl, hclause.blanks_ne, hclause.isBlank_blanks, isBlank_head_of_digits hclause⟩, digits, rfl, hclause.digits_ne,
      hclause.isDigit_digits, isDigit_head_of_startsInWord hrest⟩, by simp [hrest]⟩

private theorem startsInWord_append {cs : List Char} (h : startsInWord cs = false) (hrest : startsInWord rest = false) :
    startsInWord (cs ++ rest) = false := by
  cases cs with
  | nil => exact hrest
  | cons c cs => exact h

private theorem afterClause?_append {inWord : Bool} {cs behind : List Char} (h : afterClause? inWord cs = some rest)
    (hbehind : startsInWord behind = false) : afterClause? inWord (cs ++ behind) = some (rest ++ behind) := by
  obtain ⟨hout, word, blanks, digits, rfl, hclause, hrest⟩ := afterClause?_eq_some_iff.1 h
  exact afterClause?_eq_some_iff.2 ⟨hout, word, blanks, digits, by simp [List.append_assoc], hclause,
    startsInWord_append hrest hbehind⟩

/-! ### The clauses of a text -/

variable {inWord : Bool} {c : Char} {cs : List Char}

private theorem limitedBy_cons : LimitedBy inWord (c :: cs) digits ↔
    (inWord = false ∧ ∃ word blanks after, c :: cs = word ++ (blanks ++ (digits ++ after)) ∧
      IsClause word blanks digits ∧ startsInWord after = false) ∨ LimitedBy (isWord c) cs digits := by
  constructor
  · rintro ⟨before, word, blanks, after, hcs, hclause, hbefore, hafter⟩
    cases before with
    | nil => exact .inl ⟨hbefore, word, blanks, after, hcs, hclause, hafter⟩
    | cons d before =>
      obtain ⟨rfl, rfl⟩ := List.cons.inj hcs
      exact .inr ⟨before, word, blanks, after, rfl, hclause, hbefore, hafter⟩
  · rintro (⟨hout, word, blanks, after, hcs, hclause, hafter⟩ | ⟨before, word, blanks, after, rfl, hclause, hbefore, hafter⟩)
    · exact ⟨[], word, blanks, after, hcs, hclause, hout, hafter⟩
    · exact ⟨c :: before, word, blanks, after, rfl, hclause, hbefore, hafter⟩

private theorem not_limitedBy_nil : ¬LimitedBy inWord [] digits := by
  rintro ⟨before, word, blanks, after, hcs, hclause, -⟩
  obtain ⟨d, digits, rfl⟩ := List.exists_cons_of_ne_nil hclause.digits_ne
  simp at hcs

/-- Whether a text has a limit clause, by the digits of one. -/
theorem hasClause_iff : hasClause inWord cs = true ↔ ∃ digits, LimitedBy inWord cs digits := by
  induction cs generalizing inWord with
  | nil => simp [hasClause, not_limitedBy_nil]
  | cons c cs ih =>
    simp only [hasClause, Bool.or_eq_true, ih, Option.isSome_iff_exists, afterClause?_eq_some_iff, limitedBy_cons]
    constructor
    · rintro (⟨after, hout, word, blanks, digits, hclause⟩ | ⟨digits, h⟩)
      · exact ⟨digits, .inl ⟨hout, word, blanks, after, hclause⟩⟩
      · exact ⟨digits, .inr h⟩
    · rintro ⟨digits, ⟨hout, word, blanks, after, hclause⟩ | h⟩
      · exact .inl ⟨after, hout, word, blanks, digits, hclause⟩
      · exact .inr ⟨digits, h⟩

/-- Only a clause at the start of a text can begin with its first character. -/
private theorem LimitedBy.tail (h : LimitedBy inWord (c :: cs) digits) (hc : inWord = true ∨ isLetter 'l' c = false) :
    LimitedBy (isWord c) cs digits := by
  rcases limitedBy_cons.1 h with ⟨hout, word, blanks, after, hcs, hclause, -⟩ | h
  · obtain ⟨l, i, m, i', t, rfl, hl, -⟩ := hclause.word_eq
    obtain rfl : c = l := (List.cons.inj hcs).1
    simp [hout, hl] at hc
  · exact h

private theorem LimitedBy.of_run {run : List Char} (h : LimitedBy true (run ++ cs) digits)
    (hrun : ∀ c ∈ run, isWord c = true) : LimitedBy true cs digits := by
  induction run with
  | nil => exact h
  | cons c run ih =>
    obtain ⟨hc, hrun⟩ := List.forall_mem_cons.1 hrun
    exact ih (hc ▸ h.tail (.inl rfl)) hrun

/-! ### The clause that is put in -/

private theorem digitsValue_repr (n : Nat) : digitsValue n.repr.toList = n := by
  have hsame : digitsValue n.repr.toList = Nat.ofDigitChars 10 n.repr.toList 0 := by
    refine List.foldl_ext _ _ _ fun value c hc => ?_
    rw [digitValue?_of_isDigit (isDigit_of_mem_repr hc)]
    rfl
  rw [hsame, Nat.toList_repr]
  simp

private theorem isClause_limitClause (n : Nat) : IsClause "LIMIT".toList [' '] n.repr.toList := by
  have hword : List.Forall₂ (fun letter c => isLetter letter c = true) "limit".toList "LIMIT".toList := by
    decide
  refine ⟨hword, by simp, by decide, ?_, fun c hc => isDigit_of_mem_toDigits (Nat.toList_repr ▸ hc)⟩
  rw [Nat.toList_repr]
  exact Nat.toDigits_ne_nil

theorem limitClause_eq (number : String) : limitClause number = "LIMIT".toList ++ ([' '] ++ number.toList) := rfl

theorem afterClause?_limitClause (n : Nat) (h : startsInWord rest = false) :
    afterClause? false (limitClause n.repr ++ rest) = some rest :=
  afterClause?_eq_some_iff.2 ⟨rfl, _, _, _, by simp only [limitClause_eq, List.append_assoc], isClause_limitClause n, h⟩

private theorem afterClause?_limitClause_alone (n : Nat) : afterClause? false (limitClause n.repr) = some [] := by
  have hfound : afterClause? false (limitClause n.repr ++ []) = some [] := afterClause?_limitClause n rfl
  rwa [List.append_nil] at hfound

/-- Where a run of characters of a kind cannot go on, it is the only one at the start of the text. -/
private theorem run_eq_of_append {a b x y : List Char} {kind : Char → Bool} (h : a ++ x = b ++ y)
    (ha : ∀ c ∈ a, kind c = true) (hb : ∀ c ∈ b, kind c = true) (hx : ∀ c ∈ x.head?, kind c = false)
    (hy : ∀ c ∈ y.head?, kind c = false) : a = b := by
  have htake (run rest : List Char) (hrun : ∀ c ∈ run, kind c = true) (hrest : ∀ c ∈ rest.head?, kind c = false) :
      (run ++ rest).takeWhile kind = run := by
    rw [List.takeWhile_append_of_pos hrun]
    cases rest with
    | nil => simp
    | cons c rest => simp [hrest c rfl]
  rw [← htake a x ha hx, h, htake b y hb hy]

/-- Before a text that goes on without a word character, the clause that sets a limit has its number, and it hides no
other clause. -/
private theorem LimitedBy.of_limitClause {n : Nat} (h : LimitedBy inWord (limitClause n.repr ++ rest) digits)
    (hrest : startsInWord rest = false) : digits = n.repr.toList ∨ LimitedBy true rest digits := by
  have hclause := isClause_limitClause n
  have hcs : limitClause n.repr ++ rest = 'L' :: ("IMIT".toList ++ ' ' :: (n.repr.toList ++ rest)) := by
    simp [limitClause_eq]
  rcases limitedBy_cons.1 (hcs ▸ h) with ⟨-, word, blanks, after, heq, hother, hafter⟩ | h
  · -- the clause that is found here is the one that was put in, since each of its runs is the longest
    left
    rw [← hcs, limitClause_eq, List.append_assoc, List.append_assoc] at heq
    have hlength : "LIMIT".toList.length = word.length :=
      hclause.isLetter_word.length_eq.symm.trans hother.isLetter_word.length_eq
    have heq := (List.append_inj heq hlength).2
    have hblanks : [' '] = blanks :=
      run_eq_of_append heq hclause.isBlank_blanks hother.isBlank_blanks
        (isBlank_head_of_digits hclause) (isBlank_head_of_digits hother)
    have heq := (List.append_inj heq (congrArg List.length hblanks)).2
    exact (run_eq_of_append heq hclause.isDigit_digits hother.isDigit_digits (isDigit_head_of_startsInWord hrest)
      (isDigit_head_of_startsInWord hafter)).symm
  · -- no clause starts inside the one that was put in: after its first letter comes a word, a blank and a number
    right
    have hL := isWord_of_mem_letters 'L' (by decide)
    have hletters : ∀ c ∈ "IMIT".toList, c ∈ letters := by decide
    rw [hL] at h
    have hdigits := (h.of_run fun c hc => isWord_of_mem_letters c (hletters c hc)).tail (.inl rfl)
    obtain ⟨d, run, hrun⟩ := List.exists_cons_of_ne_nil hclause.digits_ne
    have hword := hclause.isWord_digits
    have hd : isLetter 'l' d = false := isLetter_of_isDigit (hclause.isDigit_digits d (by simp [hrun])) (by decide)
    rw [hrun] at hdigits hword
    have hspace := isWord_of_mem_marks ' ' (by decide)
    rw [hspace] at hdigits
    obtain ⟨hdword, hword⟩ := List.forall_mem_cons.1 hword
    have hrest := hdigits.tail (.inr hd)
    rw [hdword] at hrest
    exact hrest.of_run hword

/-! ### Setting one limit after another -/

/-- A limit clause at the head is replaced, and what follows it is looked at as the rest of a word. -/
theorem replaceClauses_of_some {clause : List Char} (h : afterClause? inWord cs = some rest) :
    replaceClauses clause inWord cs = clause ++ replaceClauses clause true rest := by
  cases cs with
  | nil => simp [afterClause?, afterWord?] at h
  | cons c cs => rw [replaceClauses]; split <;> simp_all

/-- A character at which no limit clause starts stays. -/
theorem replaceClauses_of_none {clause : List Char} (h : afterClause? inWord (c :: cs) = none) :
    replaceClauses clause inWord (c :: cs) = c :: replaceClauses clause (isWord c) cs := by
  rw [replaceClauses]; split <;> simp_all

private theorem startsInWord_replaceClauses (clause : List Char) :
    startsInWord (replaceClauses clause true cs) = startsInWord cs := by
  cases cs with
  | nil => simp [replaceClauses]
  | cons c cs =>
    rw [replaceClauses_of_none (if_pos rfl)]
    rfl

/-- Replacing copies what it does not replace: text that comes out before the next new clause was there before. -/
private theorem replaceClauses_copied {clause copied out : List Char}
    (h : replaceClauses ('L' :: clause) inWord cs = copied ++ out)
    (hcopied : 'L' ∉ copied) : ∃ left, cs = copied ++ left ∧
      out = replaceClauses ('L' :: clause) (inWordAfter inWord copied) left := by
  induction copied generalizing inWord cs with
  | nil => exact ⟨cs, rfl, h.symm⟩
  | cons d copied ih =>
    rw [List.mem_cons, not_or] at hcopied
    cases cs with
    | nil => simp [replaceClauses] at h
    | cons c cs =>
      cases hfound : afterClause? inWord (c :: cs) with
      | some after =>
        rw [replaceClauses_of_some hfound] at h
        exact absurd (List.cons.inj h).1 hcopied.1
      | none =>
        rw [replaceClauses_of_none hfound] at h
        obtain ⟨rfl, htail⟩ := List.cons.inj h
        obtain ⟨left, rfl, hout⟩ := ih htail hcopied.2
        exact ⟨left, rfl, hout⟩

private theorem IsClause.notMem_tail {l : Char} {tail : List Char} (h : IsClause (l :: tail) blanks digits) :
    'L' ∉ tail ++ blanks ++ digits := by
  obtain ⟨l', i, m, i', t, hword, -, hi, hm, hi', ht⟩ := h.word_eq
  obtain ⟨rfl, rfl⟩ := List.cons.inj hword
  have hother : ∀ letter ∈ ['i', 'm', 't'], isLetter letter 'L' = false := by decide
  have hne {letter c : Char} (hc : isLetter letter c = true) (hletter : letter ∈ ['i', 'm', 't']) : 'L' ≠ c := by
    rintro rfl
    rw [hother letter hletter] at hc
    cases hc
  have hblank : 'L' ∉ blanks := fun hL => absurd (h.isBlank_blanks 'L' hL) (by decide)
  have hdigit : 'L' ∉ digits := fun hL => absurd (h.isDigit_digits 'L' hL) (by decide)
  simp [hblank, hdigit, hne hi (by simp), hne hm (by simp), hne hi' (by simp), hne ht (by simp)]

/-- A clause in what replacing gives, other than a new one, was a clause before. -/
theorem afterClause?_replaceClauses (n : Nat) (h : afterClause? inWord (c :: cs) = none) :
    afterClause? inWord (c :: replaceClauses (limitClause n.repr) (isWord c) cs) = none := by
  rw [Option.eq_none_iff_forall_ne_some]
  intro after hafter
  obtain ⟨hout, word, blanks, digits, hcs, hclause, hstop⟩ := afterClause?_eq_some_iff.1 hafter
  obtain ⟨l, i, m, i', t, rfl, -⟩ := hclause.word_eq
  obtain ⟨rfl, hcs⟩ := List.cons.inj hcs
  have hcs : replaceClauses (limitClause n.repr) (isWord c) cs = [i, m, i', t] ++ blanks ++ digits ++ after := by
    simpa using hcs
  obtain ⟨left, rfl, rfl⟩ := replaceClauses_copied hcs hclause.notMem_tail
  have hword : inWordAfter (isWord c) ([i, m, i', t] ++ blanks ++ digits) = true := by
    obtain ⟨front, d, rfl⟩ := List.eq_nil_or_concat digits |>.resolve_left hclause.digits_ne
    simpa [inWordAfter] using hclause.isWord_digits d (by simp)
  rw [hword, startsInWord_replaceClauses] at hstop
  have hfound : afterClause? inWord (c :: ([i, m, i', t] ++ blanks ++ digits ++ left)) = some left :=
    afterClause?_eq_some_iff.2 ⟨hout, _, blanks, digits, by simp, hclause, hstop⟩
  rw [hfound] at h
  cases h

private theorem afterClause?_newClause {clause : List Char} (n : Nat) (h : startsInWord rest = false) :
    afterClause? false (limitClause n.repr ++ replaceClauses clause true rest) = some (replaceClauses clause true rest) :=
  afterClause?_limitClause n (by rw [startsInWord_replaceClauses, h])

private theorem hasClause_of_some (h : afterClause? inWord cs = some rest) : hasClause inWord cs = true := by
  cases cs with
  | nil => simp [afterClause?, afterWord?] at h
  | cons c cs => simp [hasClause, h]

/-- Replacing the clauses twice is replacing them by the second clause. -/
private theorem replaceClauses_replaceClauses (n m : Nat) : replaceClauses (limitClause m.repr) inWord
    (replaceClauses (limitClause n.repr) inWord cs) = replaceClauses (limitClause m.repr) inWord cs := by
  fun_induction replaceClauses (limitClause n.repr) inWord cs with
  | case1 => rfl
  | case2 inWord c cs rest h _ ih =>
    obtain ⟨rfl, -, -, -, -, -, hstop⟩ := afterClause?_eq_some_iff.1 h
    rw [replaceClauses_of_some h, replaceClauses_of_some (afterClause?_newClause n hstop), ih]
  | case3 inWord c cs h ih =>
    rw [replaceClauses_of_none h, replaceClauses_of_none (afterClause?_replaceClauses n h), ih]

private theorem hasClause_replaceClauses (n : Nat) :
    hasClause inWord (replaceClauses (limitClause n.repr) inWord cs) = hasClause inWord cs := by
  fun_induction replaceClauses (limitClause n.repr) inWord cs with
  | case1 => rfl
  | case2 inWord c cs rest h _ ih =>
    obtain ⟨rfl, -, -, -, -, -, hstop⟩ := afterClause?_eq_some_iff.1 h
    rw [hasClause_of_some h, hasClause_of_some (afterClause?_newClause n hstop)]
  | case3 inWord c cs h ih =>
    rw [hasClause, hasClause, afterClause?_replaceClauses n h, h, ih]

/-- What replacing gives has no other clauses than the new ones. -/
private theorem LimitedBy.of_replaceClauses {n : Nat}
    (h : LimitedBy inWord (replaceClauses (limitClause n.repr) inWord cs) digits) : digits = n.repr.toList := by
  fun_induction replaceClauses (limitClause n.repr) inWord cs with
  | case1 => exact absurd h not_limitedBy_nil
  | case2 inWord c cs rest hfound _ ih =>
    obtain ⟨rfl, -, -, -, -, -, hstop⟩ := afterClause?_eq_some_iff.1 hfound
    rcases h.of_limitClause (by rw [startsInWord_replaceClauses, hstop]) with h | h
    · exact h
    · exact ih h
  | case3 inWord c cs hfound ih =>
    rcases limitedBy_cons.1 h with ⟨hout, word, blanks, after, hcs, hclause, hstop⟩ | h
    · have hnew := afterClause?_eq_some_iff.2 ⟨hout, word, blanks, digits, hcs, hclause, hstop⟩
      rw [afterClause?_replaceClauses n hfound] at hnew
      cases hnew
    · exact ih h

/-! ### Characters that no clause runs over -/

/-- No limit clause runs over the character before the text: it is no word character, and where it is a blank, no
clause goes on behind it. -/
def Breaks (d : Char) (rest : List Char) : Prop :=
  isWord d = false ∧ ∀ c ∈ rest.head?, isBlank d = true → isBlank c = false ∧ isDigit c = false

private theorem exists_append_of_notMem {x y run : List Char} {d : Char} (h : x ++ d :: y = run ++ rest)
    (hd : d ∉ run) : ∃ x', x = run ++ x' ∧ rest = x' ++ d :: y := by
  rcases List.append_eq_append_iff.1 h with ⟨beyond, rfl, hover⟩ | ⟨x', rfl, hrest⟩
  · cases beyond with
    | nil => exact ⟨[], by simp, by simpa using hover.symm⟩
    | cons e beyond =>
      obtain ⟨rfl, -⟩ := List.cons.inj hover
      exact absurd (by simp) hd
  · exact ⟨x', rfl, hrest⟩

private theorem not_stops_of_append {blanks' : List Char} (h : IsClause word blanks digits)
    (hsub : ∀ c ∈ blanks', isBlank c = true) :
    ¬∀ c ∈ (blanks' ++ (digits ++ rest)).head?, isBlank c = false ∧ isDigit c = false := by
  intro hall
  cases blanks' with
  | nil =>
    obtain ⟨d, digits, rfl⟩ := List.exists_cons_of_ne_nil h.digits_ne
    simpa [h.isDigit_digits d (by simp)] using hall d rfl
  | cons b blanks' => simpa [hsub b (by simp)] using hall b rfl

theorem afterClause?_head {d : Char} {y : List Char} (hd : isWord d = false) : afterClause? inWord (d :: y) = none := by
  rw [Option.eq_none_iff_forall_ne_some]
  intro rest hrest
  obtain ⟨-, word, blanks, digits, hcs, hclause, -⟩ := afterClause?_eq_some_iff.1 hrest
  have hword := hclause.isWord_word
  obtain ⟨l, i, m, i', t, rfl, -⟩ := hclause.word_eq
  obtain rfl : d = l := (List.cons.inj hcs).1
  rw [hword d (by simp)] at hd
  cases hd

private theorem afterClause?_append_cons {d : Char} {x y : List Char} (hd : Breaks d y) :
    afterClause? inWord (x ++ d :: y) = (afterClause? inWord x).map (· ++ d :: y) := by
  cases hx : afterClause? inWord x with
  | some rest => exact afterClause?_append hx hd.1
  | none =>
    rw [Option.map_none, Option.eq_none_iff_forall_ne_some]
    intro rest hrest
    obtain ⟨hout, word, blanks, digits, hcs, hclause, hstop⟩ := afterClause?_eq_some_iff.1 hrest
    have hnot {run : List Char} (hrun : ∀ c ∈ run, isWord c = true) : d ∉ run :=
      fun hmem => by simpa [hd.1] using hrun d hmem
    obtain ⟨x, rfl, htail⟩ := exists_append_of_notMem hcs (hnot hclause.isWord_word)
    -- the character may be a blank of a clause, but no clause goes on behind it
    obtain ⟨x, rfl, hdigits⟩ : ∃ x', x = blanks ++ x' ∧ digits ++ rest = x' ++ d :: y := by
      rcases List.append_eq_append_iff.1 htail.symm with ⟨beyond, rfl, hover⟩ | ⟨x', rfl, hdigits⟩
      · cases beyond with
        | nil => exact ⟨[], by simp, by simpa using hover.symm⟩
        | cons e beyond =>
          obtain ⟨rfl, hy⟩ := List.cons.inj hover
          have hstops := fun c hc => hd.2 c hc (hclause.isBlank_blanks d (by simp))
          rw [hy] at hstops
          exact absurd hstops (not_stops_of_append hclause fun c hc => hclause.isBlank_blanks c (by simp [hc]))
      · exact ⟨x', rfl, hdigits⟩
    obtain ⟨x, rfl, rfl⟩ := exists_append_of_notMem hdigits.symm (hnot hclause.isWord_digits)
    have hfound : afterClause? inWord (word ++ (blanks ++ (digits ++ x))) = some x := by
      refine afterClause?_eq_some_iff.2 ⟨hout, word, blanks, digits, rfl, hclause, ?_⟩
      cases x with
      | nil => rfl
      | cons e x => exact hstop
    rw [hfound] at hx
    cases hx

/-- A limit clause lies before or behind a character that breaks it. -/
theorem hasClause_append_cons {d : Char} {x y : List Char} (hd : Breaks d y) :
    hasClause inWord (x ++ d :: y) = (hasClause inWord x || hasClause false y) := by
  induction x generalizing inWord with
  | nil => simp [hasClause, afterClause?_head hd.1, hd.1]
  | cons c x ih =>
    have hhead : afterClause? inWord (c :: x ++ d :: y) = (afterClause? inWord (c :: x)).map (· ++ d :: y) :=
      afterClause?_append_cons hd
    rw [List.cons_append] at hhead
    rw [List.cons_append, hasClause, hasClause, hhead, Option.isSome_map, ih, Bool.or_assoc]

/-- The two sides of a character that no clause runs over are replaced each for itself. -/
theorem replaceClauses_append_cons {clause : List Char} {d : Char} {x y : List Char} (hd : Breaks d y) :
    replaceClauses clause inWord (x ++ d :: y) = replaceClauses clause inWord x ++ d :: replaceClauses clause false y := by
  fun_induction replaceClauses clause inWord x with
  | case1 inWord => rw [List.nil_append, replaceClauses_of_none (afterClause?_head hd.1), hd.1, List.nil_append]
  | case2 inWord c x rest h _ ih =>
    have hfound : afterClause? inWord (c :: x ++ d :: y) = some (rest ++ d :: y) := by
      rw [afterClause?_append_cons hd, h, Option.map_some]
    rw [replaceClauses_of_some hfound, ih, List.append_assoc]
  | case3 inWord c x h ih =>
    rw [List.cons_append, replaceClauses_of_none, ih, List.cons_append]
    rw [← List.cons_append, afterClause?_append_cons hd, h, Option.map_none]

/-- A text without a limit clause stays as it is. -/
theorem replaceClauses_of_hasClause {clause : List Char} (h : hasClause inWord cs = false) :
    replaceClauses clause inWord cs = cs := by
  induction cs generalizing inWord with
  | nil => rw [replaceClauses]
  | cons c cs ih =>
    rw [hasClause, Bool.or_eq_false_iff, Option.isSome_eq_false_iff, Option.isNone_iff_eq_none] at h
    rw [replaceClauses_of_none h.1, ih h.2]

/-! ### Setting the limit -/

private theorem exists_dropTerminator (cs : List Char) :
    ∃ behind, cs = dropTerminator cs ++ behind ∧ ∀ c ∈ behind, isWord c = false := by
  have hsplit (kind : Char → Bool) (cs : List Char) :
      cs = (cs.reverse.dropWhile kind).reverse ++ (cs.reverse.takeWhile kind).reverse := by
    rw [← List.reverse_append, List.takeWhile_append_dropWhile, List.reverse_reverse]
  refine ⟨((dropBlanksRight cs).reverse.takeWhile (· = ';')).reverse ++ (cs.reverse.takeWhile isBlank).reverse, ?_, ?_⟩
  · rw [dropTerminator, ← List.append_assoc, ← hsplit, dropBlanksRight, ← hsplit]
  · intro c hc
    rcases List.mem_append.1 hc with hc | hc
    · have hsemicolon := List.mem_takeWhile_imp (List.mem_reverse.1 hc)
      obtain rfl : c = ';' := by simpa using hsemicolon
      exact isWord_of_mem_marks ';' (by decide)
    · exact isWord_of_isBlank (List.mem_takeWhile_imp (List.mem_reverse.1 hc))

private theorem hasClause_of_append {behind : List Char} (h : hasClause inWord (cs ++ behind) = false)
    (hbehind : startsInWord behind = false) : hasClause inWord cs = false := by
  induction cs generalizing inWord with
  | nil => rfl
  | cons c cs ih =>
    rw [List.cons_append, hasClause, Bool.or_eq_false_iff] at h
    rw [hasClause, Bool.or_eq_false_iff]
    refine ⟨?_, ih h.2⟩
    rw [Option.isSome_eq_false_iff, Option.isNone_iff_eq_none, Option.eq_none_iff_forall_ne_some]
    intro rest hrest
    have hlonger := afterClause?_append hrest hbehind
    rw [List.cons_append] at hlonger
    simp [hlonger] at h

private theorem hasClause_dropTerminator (h : hasClause false cs = false) :
    hasClause false (dropTerminator cs) = false := by
  obtain ⟨behind, hcs, hbehind⟩ := exists_dropTerminator cs
  rw [hcs] at h
  refine hasClause_of_append h ?_
  cases behind with
  | nil => rfl
  | cons c behind => exact hbehind c (by simp)

private theorem breaks_line (n : Nat) : Breaks '\n' (limitClause n.repr) :=
  ⟨isWord_of_mem_marks '\n' (by decide), by rintro c ⟨⟩; decide⟩

private theorem replaceClauses_limitClause (n m : Nat) :
    replaceClauses (limitClause m.repr) false (limitClause n.repr) = limitClause m.repr := by
  rw [replaceClauses_of_some (afterClause?_limitClause_alone n), replaceClauses, List.append_nil]

/-- Where a limit is set, replacing the clauses gives what setting the limit of the query gives. -/
theorem replaceClauses_putClause (n m : Nat) (query : List Char) :
    replaceClauses (limitClause m.repr) false (putClause (limitClause n.repr) query) =
      putClause (limitClause m.repr) query := by
  unfold putClause
  cases h : hasClause false query with
  | true => exact replaceClauses_replaceClauses n m
  | false =>
    simp only [Bool.false_eq_true, if_false]
    rw [replaceClauses_append_cons (breaks_line n), replaceClauses_of_hasClause (hasClause_dropTerminator h),
      replaceClauses_limitClause]

private theorem hasClause_putClause (n : Nat) (query : List Char) :
    hasClause false (putClause (limitClause n.repr) query) = true := by
  unfold putClause
  cases h : hasClause false query with
  | true =>
    rw [if_pos rfl, hasClause_replaceClauses, h]
  | false =>
    rw [if_neg (by simp), hasClause_append_cons (breaks_line n), hasClause_of_some (afterClause?_limitClause_alone n),
      Bool.or_true]

private theorem putClause_putClause (n m : Nat) (query : List Char) :
    putClause (limitClause m.repr) (putClause (limitClause n.repr) query) = putClause (limitClause m.repr) query := by
  rw [putClause, if_pos (hasClause_putClause n query), replaceClauses_putClause]

private theorem isShort_iff (n : Nat) : isShort n = true ↔ n < 10 ^ maxDigits := by
  rw [isShort, decide_eq_true_iff, Int.natAbs_natCast, Nat.repr, String.length_ofList]
  exact Nat.length_toDigits_le_iff (by decide) (by decide)

/-- A limit is set if it has no more digits than can be written. -/
theorem setLimit_eq (n : Nat) (query : List Char) : setLimit n query =
    if n < 10 ^ maxDigits then .ok (putClause (limitClause n.repr) query) else .error .tooManyDigits := by
  rw [setLimit, writeInteger]
  simp only [isShort_iff]
  split <;> rfl

/-- The limit that is set last wins: nothing is left of an earlier one, the query has a limit clause, and every limit
clause of it carries the number. Only a number that has too many digits to be written cannot be set. -/
theorem setLimit_latest (query : List Char) (n m : Nat) :
    (setLimit n query >>= setLimit m) = (if n < 10 ^ maxDigits then setLimit m query else .error .tooManyDigits) ∧
    ((∃ limited, setLimit m query = .ok limited) ↔ m < 10 ^ maxDigits) ∧
    ∀ limited, setLimit m query = .ok limited →
      (∃ digits, LimitedBy false limited digits) ∧
      ∀ digits, LimitedBy false limited digits → digits = m.repr.toList ∧ digitsValue digits = m := by
  refine ⟨?_, ?_, fun limited h => ?_⟩
  · simp only [setLimit_eq n]
    split
    · show setLimit m (putClause (limitClause n.repr) query) = _
      rw [setLimit_eq, setLimit_eq, putClause_putClause]
    · rfl
  · rw [setLimit_eq]
    split <;> simp [*]
  · rw [setLimit_eq] at h
    split at h
    · obtain rfl := Except.ok.inj h
      refine ⟨hasClause_iff.1 (hasClause_putClause m query), fun digits hdigits => ?_⟩
      rw [← replaceClauses_putClause m m] at hdigits
      obtain rfl := hdigits.of_replaceClauses
      exact ⟨rfl, digitsValue_repr m⟩
    · cases h

/-- The least number that has too many digits cannot be set, so no other limit can be set after it. -/
theorem setLimit_latest_unwritten : ¬∀ (query : List Char) (n m : Nat),
    (setLimit n query >>= setLimit m) = setLimit m query ∧
    ∃ limited, setLimit m query = .ok limited ∧ (∃ digits, LimitedBy false limited digits) ∧
      ∀ digits, LimitedBy false limited digits → digitsValue digits = m := by
  intro hall
  obtain ⟨hsame, limited, hlimited, -⟩ := hall "SELECT * \x7b\x7d".toList (10 ^ maxDigits) 7
  rw [setLimit_eq (10 ^ maxDigits), if_neg (Nat.lt_irrefl _), hlimited] at hsame
  cases hsame

end PointOfFocus.Query
