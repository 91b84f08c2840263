import Mathlib.Data.List.Forall2
import PointOfFocus.Proofs.Query.Lexing

/-!
# Texts and their tokens

`Yields` says which tokens a text is cut into, and `Writes` that a piece of text can stand before any text that starts in
the right way and adds its own tokens. Texts that are put together write the tokens of their parts (`Writes.append`).
-/

namespace PointOfFocus.Query

open PointOfFocus.Text
open Phrase

/-- The characters are cut into the tokens of the pieces, none of which is a point of focus. -/
def Yields (cs : List Char) (ps : List Piece) : Prop :=
  ∀ offset, ∃ ts, tokensFrom 0 offset cs = .ok ts ∧ List.Forall₂ Piece.Matches ps ts ∧ ∀ t ∈ ts, t.isFocus = false

/-! ### Texts without a point of focus -/

/-- Only a marker stands for the point of focus. -/
theorem isFocus_of_kind {t : Token} (h : ∀ hint, t.kind ≠ .focus hint) : t.isFocus = false := by
  unfold Token.isFocus
  split
  next hint hkind => exact absurd hkind (h hint)
  · rfl

/-- Tokens that are no points of focus are passed over. -/
theorem attachHints_append {ts : List Token} (h : ∀ t ∈ ts, t.isFocus = false) (seen us : List Token) :
    attachHints seen (ts ++ us) = attachHints (ts.reverse ++ seen) us := by
  induction ts generalizing seen with
  | nil => rfl
  | cons t ts ih =>
    obtain ⟨ht, hts⟩ := List.forall_mem_cons.1 h
    rw [List.cons_append, attachHints, ht, if_neg (by decide), ih hts, List.reverse_cons, List.append_assoc,
      List.singleton_append]

private theorem attachHints_of_forall {ts : List Token} (h : ∀ t ∈ ts, t.isFocus = false) :
    attachHints [] ts = .ok ts := by
  have hpassed := attachHints_append h [] []
  rwa [List.append_nil, List.append_nil, attachHints, List.reverse_reverse] at hpassed

/-- There is no point of focus in a phrase whose tokens have none. -/
theorem markers_of_forall₂ {ps : List Piece} {ts : List Token} (h : List.Forall₂ Piece.Matches ps ts)
    (hts : ∀ t ∈ ts, t.isFocus = false) : markers ps = 0 := by
  induction h with
  | nil => rfl
  | @cons p t ps ts hp _ ih =>
    obtain ⟨ht, hts⟩ := List.forall_mem_cons.1 hts
    have hmarker : p.isMarker = false := by
      unfold Piece.isMarker
      split
      next hint text =>
        rw [Token.isFocus, show t.kind = .focus hint from hp.1] at ht
        cases ht
      · rfl
    rw [markers, List.countP_cons_of_neg (by simp [hmarker])]
    exact ih hts

/-- The pieces that a text yields have no marker. -/
theorem Yields.markers {cs : List Char} {ps : List Piece} (h : Yields cs ps) : markers ps = 0 := by
  obtain ⟨ts, _, hmatches, hfocus⟩ := h 0
  exact markers_of_forall₂ hmatches hfocus

/-- The tokens of a text are those that its pieces stand for. -/
theorem Yields.tokens {cs : List Char} {ps : List Piece} (h : Yields cs ps) :
    ∃ ts, tokens cs = .ok ts ∧ List.Forall₂ Piece.Matches ps ts := by
  obtain ⟨ts, htokens, hmatches, hfocus⟩ := h 0
  refine ⟨ts, ?_, hmatches⟩
  rw [Query.tokens, htokens]
  exact attachHints_of_forall hfocus

/-! ### Cutting -/

private theorem tokensFrom_skip (chunk rest : List Char) (offset : Nat) :
    tokensFrom chunk.length offset (chunk ++ rest) = tokensFrom 0 (offset + chunk.length) rest := by
  induction chunk generalizing offset with
  | nil => rfl
  | cons c chunk ih =>
    rw [List.cons_append, List.length_cons, tokensFrom, ih]
    congr 1
    omega

/-- A token that is cut out as a whole comes before the tokens of what follows it. -/
theorem tokensFrom_cut {chunk rest : List Char} {kind : Kind} (hne : chunk ≠ [])
    (h : lexeme? (chunk ++ rest) = some (.token kind, chunk.length)) (offset : Nat) :
    tokensFrom 0 offset (chunk ++ rest) = do
      return ⟨kind, String.ofList chunk, offset, offset + chunk.length⟩ ::
        (← tokensFrom 0 (offset + chunk.length) rest) := by
  cases chunk with
  | nil => exact absurd rfl hne
  | cons c cs =>
    have hskip : tokensFrom cs.length (offset + 1) (cs ++ rest) = tokensFrom 0 (offset + (cs.length + 1)) rest := by
      rw [tokensFrom_skip, Nat.add_right_comm, Nat.add_assoc]
    rw [List.cons_append] at h ⊢
    rw [tokensFrom, h]
    simp only [List.length_cons, Nat.add_sub_cancel, hskip, List.take_succ_cons, List.take_left]

/-! ### Pieces of text -/

/-- Before a text that starts as said the piece of text is cut into the tokens of the pieces, none of which is a point of
focus, and what follows it is cut for itself. -/
def Writes (starts : List Char → Prop) (text : String) (ps : List Piece) : Prop :=
  ∀ rest offset, starts rest → ∃ ts, List.Forall₂ Piece.Matches ps ts ∧ (∀ t ∈ ts, t.isFocus = false) ∧
    tokensFrom 0 offset (text.toList ++ rest) = (tokensFrom 0 (offset + text.length) rest).map (ts ++ ·)

/-- Nothing is said about how a text starts. -/
def Anything (_ : List Char) : Prop := True

/-- The text does not start with a quote. -/
def Unquoted (rest : List Char) : Prop := rest.head? ≠ some '"'

/-- What delimits a name does not go on with a quotation mark. -/
theorem Delimited.unquoted {rest : List Char} (h : Delimited rest) : Unquoted rest := by
  have hquote : ∀ d ∈ delimiters, some d ≠ some '"' := by decide
  rcases h with rfl | ⟨d, cs, rfl, hd⟩
  · simp [Unquoted]
  · exact hquote d hd

section

variable {P Q : List Char → Prop} {text first second : String} {ps qs : List Piece}

/-- A text that may be followed by more may be followed by less. -/
theorem Writes.mono (h : Writes P text ps) (hPQ : ∀ rest, Q rest → P rest) : Writes Q text ps :=
  fun rest qs hrest => h rest qs (hPQ rest hrest)

/-- Two texts are cut one after the other if the first can be followed by the second. -/
theorem Writes.append (h₁ : Writes P first ps) (h₂ : Writes Q second qs)
    (hstarts : ∀ rest, Q rest → P (second.toList ++ rest)) : Writes Q (first ++ second) (ps ++ qs) := by
  intro rest offset hrest
  obtain ⟨ts, hts, htsFocus, hfirst⟩ := h₁ (second.toList ++ rest) offset (hstarts rest hrest)
  obtain ⟨us, hus, husFocus, hsecond⟩ := h₂ rest (offset + first.length) hrest
  refine ⟨ts ++ us, List.rel_append hts hus, ?_, ?_⟩
  · intro t ht
    exact (List.mem_append.1 ht).elim (htsFocus t) (husFocus t)
  · rw [String.toList_append, List.append_assoc, hfirst, hsecond, String.length_append, Nat.add_assoc]
    cases tokensFrom 0 (offset + (first.length + second.length)) rest with
    | error e => rfl
    | ok later => exact congrArg Except.ok (List.append_assoc ts us later).symm

/-- A text that is cut the same way before anything can be followed by any other. -/
theorem Writes.before (h₁ : Writes Anything first ps) (h₂ : Writes Q second qs) :
    Writes Q (first ++ second) (ps ++ qs) :=
  h₁.append h₂ fun _ _ => trivial

/-- Names, words and numbers stand before a text that starts with a delimiter. -/
theorem Writes.beforeDelimiter (h₁ : Writes Delimited first ps) (h₂ : Writes Q second qs) {d : Char}
    (hstart : second.toList.head? = some d) (hd : d ∈ delimiters) : Writes Q (first ++ second) (ps ++ qs) := by
  refine h₁.append h₂ fun rest _ => ?_
  obtain ⟨cs, hcs⟩ := List.head?_eq_some_iff.1 hstart
  rw [hcs]
  exact Delimited.cons hd _

/-- A piece of text that may stand at the end of a text may stand alone. -/
theorem Writes.yields_end (h : Writes P text ps) (hend : P []) : Yields text.toList ps := by
  intro offset
  obtain ⟨ts, hts, hfocus, hcut⟩ := h [] offset hend
  refine ⟨ts, ?_, hts, hfocus⟩
  rw [List.append_nil] at hcut
  rw [hcut, tokensFrom, Except.map, List.append_nil]

/-- A text that is cut the same way before anything yields its pieces on its own. -/
theorem Writes.yields (h : Writes Anything text ps) : Yields text.toList ps := h.yields_end trivial

/-- A piece of text that is a token stands for it. -/
theorem writes_token {kind : Kind} {p : Piece} (hne : text.toList ≠ [])
    (hlexeme : ∀ rest, P rest → lexeme? (text.toList ++ rest) = some (.token kind, text.toList.length))
    (hkind : ∀ hint, kind ≠ .focus hint) (hp : ∀ start stop, p.Matches ⟨kind, text, start, stop⟩) :
    Writes P text [p] := by
  intro rest offset hrest
  refine ⟨[⟨kind, text, offset, offset + text.length⟩], .cons (hp _ _) .nil, ?_, ?_⟩
  · exact List.forall_mem_singleton.2 (isFocus_of_kind hkind)
  · have hcut := tokensFrom_cut hne (hlexeme rest hrest) offset
    rw [String.ofList_toList, String.length_toList] at hcut
    rw [hcut]
    cases tokensFrom 0 (offset + text.length) rest <;> rfl

/-- A blank is passed over. -/
theorem tokensFrom_blank {c : Char} (hc : isBlank c = true) (rest : List Char) (offset : Nat) :
    tokensFrom 0 offset (c :: rest) = tokensFrom 0 (offset + 1) rest := by
  have hgap : ∀ cs, lexeme? (c :: cs) = some (.gap, (cs.takeWhile isBlank).length + 1) := by
    intro cs
    simp [lexeme?, blanks?, runLength?, hc]
  rw [tokensFrom, hgap rest]
  dsimp only
  rw [Nat.add_sub_cancel]
  cases rest with
  | nil => rfl
  | cons d rest =>
    by_cases hd : isBlank d = true
    · have hagain : lexeme? (d :: rest) = some (.gap, (rest.takeWhile isBlank).length + 1) := by
        simp [lexeme?, blanks?, runLength?, hd]
      rw [List.takeWhile_cons_of_pos hd, List.length_cons, tokensFrom, tokensFrom, hagain]
      rfl
    · rw [List.takeWhile_cons_of_neg hd]
      rfl

/-- Blanks separate tokens and do nothing else, also before further blanks. -/
theorem writes_blanks (h : ∀ c ∈ text.toList, isBlank c = true) : Writes Anything text [] := by
  intro rest offset _
  refine ⟨[], .nil, by simp, ?_⟩
  have hskip : ∀ (cs : List Char) (offset : Nat), (∀ c ∈ cs, isBlank c = true) →
      tokensFrom 0 offset (cs ++ rest) = tokensFrom 0 (offset + cs.length) rest := by
    intro cs
    induction cs with
    | nil => exact fun _ _ => rfl
    | cons c cs ih =>
      intro offset hcs
      obtain ⟨hc, hcs⟩ := List.forall_mem_cons.1 hcs
      rw [List.cons_append, tokensFrom_blank hc, ih _ hcs, List.length_cons, Nat.add_right_comm, Nat.add_assoc]
  rw [hskip _ offset h, String.length_toList]
  cases tokensFrom 0 (offset + text.length) rest <;> rfl

end

end PointOfFocus.Query
