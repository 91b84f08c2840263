import PointOfFocus.Proofs.Query.Coverage
import PointOfFocus.Proofs.Query.Movement
import PointOfFocus.Proofs.Text.Position

/-!
# The places of faults

A fault of a query is told with its place in the text (`parseInto_place`). The parser stops at a token: the one at hand,
one that it took before, such as an opening bracket, or the one for the end. A point of focus with a hint begins where
its hint does, so a fault there is at the hint. A text that cannot be cut into tokens has its fault at the first place
where no rule for tokens applies.
-/

namespace PointOfFocus.Query

open PointOfFocus.Text

/-! ### Where cutting a text stops -/

/-- Tokens and gaps cover the text up to the offset. -/
inductive Reached (text : List Char) : Nat → Prop where
  | start : Reached text 0
  | next {offset length : Nat} {lexeme : Lexeme} : Reached text offset →
      lexeme? (text.drop offset) = some (lexeme, length) → Reached text (offset + length)

/-- At the offset stands the first character that no rule for tokens applies to. -/
structure FirstUnmatched (text : List Char) (offset : Nat) (c : Char) : Prop where
  reached : Reached text offset
  char : text[offset]? = some c
  unmatched : lexeme? (text.drop offset) = none

private theorem tokensFrom_unmatched {text cs : List Char} {skip offset place : Nat} {c : Char}
    (h : tokensFrom skip offset cs = .error (.unexpected c place)) (hcs : text.drop offset = cs)
    (hreached : Reached text (offset + skip)) : FirstUnmatched text place c := by
  fun_induction tokensFrom skip offset cs with
  | case1 => cases h
  | case2 skip offset d cs ih =>
    rw [Nat.add_right_comm, Nat.add_assoc] at ih
    exact ih h (drop_succ hcs).1 hreached
  | case3 offset d cs hnone =>
    cases h
    have hchar : text[place]? = some c := by rw [← List.head?_drop, hcs, List.head?_cons]
    exact ⟨hreached, hchar, hcs ▸ hnone⟩
  | case4 offset d cs length hfound ih =>
    -- no lexeme is empty, so the next position is the one behind it
    have hpos := (lexeme?_le hfound).1
    refine ih h (drop_succ hcs).1 ?_
    rw [show offset + 1 + (length - 1) = offset + length by omega]
    exact hreached.next (hcs ▸ hfound)
  | case5 offset d cs kind length hfound ih =>
    have hpos := (lexeme?_le hfound).1
    cases hrest : tokensFrom (length - 1) (offset + 1) cs with
    | ok rest => rw [hrest] at h; cases h
    | error e =>
      rw [hrest] at h
      cases h
      refine ih hrest (drop_succ hcs).1 ?_
      rw [show offset + 1 + (length - 1) = offset + length by omega]
      exact hreached.next (hcs ▸ hfound)

/-- Only the first pass finds fault with a character. -/
theorem tokens_unmatched {text : List Char} {place : Nat} {c : Char} (h : tokens text = .error (.unexpected c place)) :
    FirstUnmatched text place c := by
  unfold tokens at h
  cases hfound : tokensFrom 0 0 text with
  | error e =>
    rw [hfound] at h
    cases h
    exact tokensFrom_unmatched hfound rfl .start
  | ok found =>
    rw [hfound] at h
    have hsame : ([] : List Token).takeWhile (!·.isFocus) = ([] : List Token).takeWhile (!·.isFocus) := rfl
    obtain ⟨n, hn, -⟩ := (attachHints_faults hsame (by simp) (tokensFrom_forall lexeme?_spelled hfound)).1 _ h
    cases hn

/-! ### Where the parser stops -/

private theorem Laid.start_le {text : List Char} {a b : Nat} {ts : List Token} (h : Laid text a ts b) :
    ∀ t ∈ ts, t.start ≤ b := by
  induction ts generalizing a with
  | nil => simp
  | cons t ts ih =>
    obtain ⟨-, -, hlt, -, hrest⟩ := h
    have hstop := hrest.le
    exact List.forall_mem_cons.2 ⟨by omega, ih hrest⟩

private theorem tokens_start_le {text : List Char} {ts : List Token} (h : tokens text = .ok ts) :
    ∀ t ∈ ts, t.start ≤ text.length := by
  unfold tokens at h
  cases hfound : tokensFrom 0 0 text with
  | error e => rw [hfound] at h; cases h
  | ok cut =>
    rw [hfound] at h
    have hcut : ∀ t ∈ cut, t.IsWritten ∧ t.IsCut :=
      tokensFrom_forall (P := fun t => t.IsWritten ∧ t.IsCut)
        (fun hlexeme => ⟨lexeme?_isWritten hlexeme, lexeme?_isCut hlexeme _ _⟩) hfound
    have hraw : Laid text 0 cut text.length := tokensFrom_laid hfound rfl (Nat.zero_le _) (Nat.zero_le _)
    exact (attachHints_laid h (by simp) hcut hraw).2.start_le

/-- The parser stops at one of the tokens. -/
theorem parseTokens_place {scope : Scope} {ts : List Token} {length offset : Nat} {cause : Cause}
    (h : (parseTokens scope ts length).1 = .error (.at offset cause)) :
    ∃ t ∈ ts ++ [.eof length], offset = t.start := by
  have hbound := Nat.lt_succ_self (ts.length + 1)
  obtain ⟨-, -, harrives⟩ := (query_proceeds hbound hbound).run (within_start scope ts length)
  unfold parseTokens at h
  rcases hrun : query (ts.length + 2) { ahead := ts, last := .eof length, scope } with ⟨e | a, after⟩
  · rw [hrun] at h harrives
    cases h
    exact harrives.2
  · rw [hrun] at h
    cases h

/-- A fault of a query with a place lies in the text or at its end. If the text can be cut into tokens, the place is the
start of a token, which may be the one for the end; if not, it is that of the first character that no rule for tokens
applies to. The message names the place by the number of lines before it and of characters before it in its line. -/
theorem parseInto_place {scope : Scope} {text : List Char} {offset : Nat} {cause : Cause}
    (h : (parseInto scope text).1 = .error (.at offset cause)) :
    offset ≤ text.length ∧ (∀ ts, tokenize text = .ok ts → ∃ t ∈ ts, offset = t.start) ∧
      (∀ fault, tokenize text = .error fault →
        ∃ c, cause = .unexpectedCharacter c ∧ FirstUnmatched text offset c) ∧
      (Error.at offset cause).message text = located cause.message (positionAt text offset) ∧
      ∃ before line, SplitAt text offset before line ∧
        positionAt text offset = ⟨before.count '\n' + 1, line.length + 1⟩ := by
  have hplace : offset ≤ text.length ∧ (∀ ts, tokenize text = .ok ts → ∃ t ∈ ts, offset = t.start) ∧
      ∀ fault, tokenize text = .error fault → ∃ c, cause = .unexpectedCharacter c ∧ FirstUnmatched text offset c := by
    unfold parseInto at h
    unfold tokenize
    -- The fault comes from the parser if there are tokens, and else from the cutting.
    cases htokens : tokens text with
    | ok ts =>
      rw [htokens] at h
      obtain ⟨t, ht, hstart⟩ := parseTokens_place h
      refine ⟨?_, fun us hus => ?_, nofun⟩
      · rcases List.mem_append.1 ht with hmem | hmem
        · exact hstart ▸ tokens_start_le htokens t hmem
        · rw [hstart, List.mem_singleton.1 hmem]
          exact Nat.le_refl _
      · cases hus
        exact ⟨t, ht, hstart⟩
    | error e =>
      rw [htokens] at h
      cases e with
      | pathLength cause => cases h
      | unexpected c place =>
        cases h
        have hunmatched := tokens_unmatched htokens
        have hlt := (List.getElem?_eq_some_iff.1 hunmatched.char).1
        exact ⟨Nat.le_of_lt hlt, nofun, fun _ _ => ⟨c, rfl, hunmatched⟩⟩
  obtain ⟨before, line, hsplit, hbefore⟩ := exists_splitAt text offset
  exact ⟨hplace.1, hplace.2.1, hplace.2.2, rfl, before, line, hsplit, hsplit.positionAt hbefore hplace.1⟩

/-- A label that is not declared, in the hint of a point of focus on the second line. -/
theorem parseInto_place_hint :
    (parseInto {} "SELECT * \x7b\n ?s ex:lo< \x7d".toList).1 = .error (.at 15 (.unresolvedPrefix "ex")) ∧
      (∃ ts, tokenize "SELECT * \x7b\n ?s ex:lo< \x7d".toList = .ok ts ∧ ∃ t ∈ ts, 15 = t.start) ∧
      (Error.at 15 (.unresolvedPrefix "ex")).message "SELECT * \x7b\n ?s ex:lo< \x7d".toList =
        "Unresolved prefix 'ex:' (line 2, column 5)" := by
  have hread : (parseInto {} "SELECT * \x7b\n ?s ex:lo< \x7d".toList).1 = .error (.at 15 (.unresolvedPrefix "ex")) := by
    decide +kernel
  have hcut : (tokenize "SELECT * \x7b\n ?s ex:lo< \x7d".toList).isOk = true := by decide +kernel
  have hplace := parseInto_place hread
  cases hts : tokenize "SELECT * \x7b\n ?s ex:lo< \x7d".toList with
  | error e => rw [hts] at hcut; cases hcut
  | ok ts => exact ⟨hread, ⟨ts, rfl, hplace.2.1 ts hts⟩, hplace.2.2.2.1.trans (by decide +kernel)⟩

end PointOfFocus.Query
