import PointOfFocus.Proofs.Query.Coverage
import PointOfFocus.Proofs.Query.Stopping

/-!
# Texts at which the parser stops

`Unreadable` says of a text that no group is read whose lines start with it, whatever follows it. It is enough that the first
tokens of the text are such that the parser stops at them (`unreadable_of_writes`, `unreadable_of_next`). A point of focus behind
these tokens could take up some of them as its hint, so the last of them is to be one that no point of focus takes up, or
one that other tokens stand behind.
-/

namespace PointOfFocus.Query

open Phrase
open PointOfFocus.Template (recommendationText)

/-! ### Tokens that are not taken up -/

/-- The kinds of tokens that a point of focus takes up if it touches them. -/
def hintKinds : List Kind := [.prefixedName, .word, .integer, .decimal]

/-- A point of focus takes up nothing, a token that it touches, or a number before a slash. -/
private theorem attachFocus_cases {t : Token} {stack next : List Token} (h : attachFocus t stack = .ok next)
    (ht : t.isFocus = true) : ∃ x : Token, x.isFocus = true ∧ (next = x :: stack ∨
      (∃ y rest, stack = y :: rest ∧ y.kind ∈ hintKinds ∧ next = x :: rest) ∨
      ∃ y z rest, stack = y :: z :: rest ∧ y.kind = .symbol .slash ∧ z.kind = .integer ∧ next = x :: rest) := by
  -- the same for a token alone and for one with others before it
  have htouching (previous : Token) (rest : List Token) : ∃ x : Token, x.isFocus = true ∧
      (attachFocus.touching t previous rest = x :: previous :: rest ∨
        previous.kind ∈ hintKinds ∧ attachFocus.touching t previous rest = x :: rest) := by
    unfold attachFocus.touching
    split
    · split
      next hkind => exact ⟨_, rfl, .inr ⟨by simp [hintKinds, hkind], rfl⟩⟩
      next hkind => exact ⟨_, rfl, .inr ⟨by simp [hintKinds, hkind], rfl⟩⟩
      next hkind => exact ⟨_, rfl, .inr ⟨by simp [hintKinds, hkind], rfl⟩⟩
      next hkind => exact ⟨_, rfl, .inr ⟨by simp [hintKinds, hkind], rfl⟩⟩
      next => exact ⟨t, ht, .inl rfl⟩
    · exact ⟨t, ht, .inl rfl⟩
  unfold attachFocus at h
  split at h
  · exact ⟨t, ht, .inl (Except.ok.inj h).symm⟩
  next previous =>
    obtain rfl := Except.ok.inj h
    obtain ⟨x, hx, hsame | ⟨hkind, hsame⟩⟩ := htouching previous []
    · exact ⟨x, hx, .inl hsame⟩
    · exact ⟨x, hx, .inr (.inl ⟨previous, [], rfl, hkind, hsame⟩)⟩
  next previous before rest =>
    split at h
    next hpath =>
      rw [Bool.and_eq_true, decide_eq_true_eq, decide_eq_true_eq] at hpath
      split at h
      · exact ⟨_, rfl, .inr (.inr ⟨previous, before, rest, rfl, hpath.1, hpath.2, (Except.ok.inj h).symm⟩)⟩
      · cases h
    next =>
      obtain rfl := Except.ok.inj h
      obtain ⟨x, hx, hsame | ⟨hkind, hsame⟩⟩ := htouching previous (before :: rest)
      · exact ⟨x, hx, .inl hsame⟩
      · exact ⟨x, hx, .inr (.inl ⟨previous, before :: rest, rfl, hkind, hsame⟩)⟩

/-- No point of focus takes up the last of the tokens, which are given last first. -/
def IsSettled (stack : List Token) : Prop :=
  ∃ b rest, stack = b :: rest ∧ b.kind ∉ hintKinds ∧ (b.kind = .symbol .slash → ∃ c ∈ rest.head?, c.kind ≠ .integer)

private theorem IsSettled.append {stack : List Token} (h : IsSettled stack) (base : List Token) :
    IsSettled (stack ++ base) := by
  obtain ⟨b, rest, rfl, hb, hslash⟩ := h
  refine ⟨b, rest ++ base, rfl, hb, fun hkind => ?_⟩
  obtain ⟨c, hc, hinteger⟩ := hslash hkind
  exact ⟨c, by simp [List.head?_append, Option.mem_def.1 hc], hinteger⟩

/-- No point of focus takes up the tokens of the base. Above them stand the tokens that were seen after them. -/
def Shields (base seen : List Token) : Prop := IsSettled base ∨ ∃ y ∈ seen.getLast?, y.kind ≠ .symbol .slash

private theorem Shields.cons {base seen : List Token} (h : Shields base seen) (t : Token) :
    Shields base (t :: seen) := by
  refine h.imp id fun ⟨y, hy, hslash⟩ => ⟨y, ?_, hslash⟩
  cases seen with
  | nil => cases hy
  | cons u seen => rwa [List.getLast?_cons_cons]

private theorem Shields.tail {base seen : List Token} {y x : Token} (h : Shields base (y :: seen))
    (hx : x.kind ≠ .symbol .slash) : Shields base (x :: seen) := by
  refine h.imp id fun ⟨z, hz, hslash⟩ => ?_
  cases seen with
  | nil => exact ⟨x, rfl, hx⟩
  | cons u seen => exact ⟨z, by rwa [List.getLast?_cons_cons] at hz ⊢, hslash⟩

private theorem attachFocus_shields {t : Token} {base seen next : List Token}
    (h : attachFocus t (seen ++ base) = .ok next)
    (ht : t.isFocus = true) (hshields : Shields base seen) : ∃ seen', next = seen' ++ base ∧ Shields base seen' := by
  obtain ⟨x, hx, hcases⟩ := attachFocus_cases h ht
  -- the point of focus is no slash, so it may become the first token above the base
  have hslash : x.kind ≠ .symbol .slash := by
    intro hkind
    simp [Token.isFocus, hkind] at hx
  rcases hcases with rfl | ⟨y, rest, hstack, hy, rfl⟩ | ⟨y, z, rest, hstack, hy, hz, rfl⟩
  · exact ⟨x :: seen, rfl, hshields.cons x⟩
  · cases seen with
    | nil =>
      rcases hshields with ⟨b, _, rfl, hb, -⟩ | ⟨_, hnone, -⟩
      · obtain ⟨rfl, -⟩ := List.cons.inj hstack
        exact absurd hy hb
      · cases hnone
    | cons u seen =>
      obtain ⟨rfl, rfl⟩ := List.cons.inj hstack
      exact ⟨x :: seen, rfl, hshields.tail hslash⟩
  · rcases seen with _ | ⟨u, _ | ⟨v, seen⟩⟩
    · rcases hshields with ⟨b, _, rfl, -, hb⟩ | ⟨_, hnone, -⟩
      · obtain ⟨rfl, rfl⟩ := List.cons.inj hstack
        obtain ⟨c, hc, hinteger⟩ := hb hy
        obtain rfl := Option.some.inj hc
        exact absurd hz hinteger
      · cases hnone
    · obtain ⟨rfl, hbase⟩ := List.cons.inj hstack
      rcases hshields with ⟨b, _, rfl, hb, -⟩ | ⟨v, hv, hother⟩
      · obtain ⟨rfl, -⟩ := List.cons.inj hbase
        exact absurd (by simp [hintKinds, hz]) hb
      · obtain rfl := Option.some.inj hv
        exact absurd hy hother
    · obtain ⟨rfl, hrest⟩ := List.cons.inj hstack
      obtain ⟨rfl, rfl⟩ := List.cons.inj hrest
      refine ⟨x :: seen, rfl, ?_⟩
      rcases hshields with hbase | ⟨w, hw, hother⟩
      · exact .inl hbase
      · cases seen with
        | nil => exact .inr ⟨x, rfl, hslash⟩
        | cons w' seen =>
          simp only [List.getLast?_cons_cons] at hw
          exact .inr ⟨w, by rwa [List.getLast?_cons_cons], hother⟩

/-- Hints leave the tokens alone that are shielded from them. -/
theorem attachHints_shields {base us out : List Token} {seen : List Token} (hshields : Shields base seen)
    (h : attachHints (seen ++ base) us = .ok out) : ∃ later, out = base.reverse ++ later := by
  induction us generalizing seen with
  | nil =>
    obtain rfl := Except.ok.inj h
    exact ⟨seen.reverse, List.reverse_append⟩
  | cons t us ih =>
    rw [attachHints] at h
    cases hfocus : t.isFocus with
    | false =>
      rw [hfocus, if_neg (by decide)] at h
      exact ih (hshields.cons t) h
    | true =>
      rw [hfocus, if_pos rfl] at h
      cases hnext : attachFocus t (seen ++ base) with
      | error e =>
        rw [hnext] at h
        cases h
      | ok next =>
        obtain ⟨seen', rfl, hshields'⟩ := attachFocus_shields hnext hfocus hshields
        rw [hnext] at h
        exact ih hshields' h

/-- No point of focus among the other tokens takes up the first ones. -/
def Kept (ts us : List Token) : Prop :=
  IsSettled ts.reverse ∨ ∃ y ∈ us.head?, y.isFocus = false ∧ y.kind ≠ .symbol .slash

private theorem Kept.after {ts us : List Token} (h : Kept ts us) (before : List Token) : Kept (before ++ ts) us := by
  refine h.imp (fun hsettled => ?_) id
  rw [List.reverse_append]
  exact hsettled.append _

private theorem attachHints_kept {ts us out : List Token} (hts : ∀ t ∈ ts, t.isFocus = false) (hkept : Kept ts us)
    (h : attachHints [] (ts ++ us) = .ok out) : ∃ later, out = ts ++ later := by
  rw [attachHints_append hts, List.append_nil] at h
  rw [← List.reverse_reverse ts]
  rcases hkept with hsettled | ⟨y, hy, hfocus, hslash⟩
  · exact attachHints_shields (show Shields ts.reverse [] from .inl hsettled) h
  · obtain ⟨us, rfl⟩ := List.head?_eq_some_iff.1 hy
    rw [attachHints, hfocus, if_neg (by decide)] at h
    exact attachHints_shields (show Shields ts.reverse [y] from .inr ⟨y, rfl, hslash⟩) h

/-! ### Texts that are not read -/

/-- Whatever follows the text, and wherever it stands, no tokens are cut out, or they start with some at which the parser
stops and which no point of focus behind them takes up. -/
def Unreadable (text : String) : Prop :=
  ∀ rest offset all, tokensFrom 0 offset (text.toList ++ rest) = .ok all → ∃ ps ts us, all = ts ++ us ∧
    List.Forall₂ Piece.Matches ps ts ∧ (∀ t ∈ ts, t.isFocus = false) ∧ Kept ts us ∧ StopsGroup ps

/-- A text at which the parser stops whatever follows is one with more behind it. -/
theorem Unreadable.append {text : String} (h : Unreadable text) (more : String) : Unreadable (text ++ more) := by
  intro rest offset all hall
  rw [String.toList_append, List.append_assoc] at hall
  exact h _ offset all hall

/-- A text that stands before anything is cut for itself. -/
theorem Writes.tokens_before {text : String} {ps : List Piece} {P : List Char → Prop} (h : Writes P text ps)
    {rest : List Char} (hrest : P rest) {offset : Nat} {all : List Token}
    (hall : tokensFrom 0 offset (text.toList ++ rest) = .ok all) : ∃ ts us, all = ts ++ us ∧
      List.Forall₂ Piece.Matches ps ts ∧ (∀ t ∈ ts, t.isFocus = false) ∧
      tokensFrom 0 (offset + text.length) rest = .ok us := by
  obtain ⟨ts, hts, hfocus, hcut⟩ := h rest offset hrest
  rw [hcut] at hall
  cases hus : tokensFrom 0 (offset + text.length) rest with
  | error e =>
    rw [hus] at hall
    cases hall
  | ok us =>
    rw [hus] at hall
    obtain rfl := Except.ok.inj hall
    exact ⟨ts, us, rfl, hts, hfocus, rfl⟩

theorem forall_mem_append_isFocus {ts us : List Token} (hts : ∀ t ∈ ts, t.isFocus = false)
    (hus : ∀ t ∈ us, t.isFocus = false) : ∀ t ∈ ts ++ us, t.isFocus = false :=
  fun t ht => (List.mem_append.1 ht).elim (hts t) (hus t)

/-- A line that is read does not help. -/
theorem Unreadable.after_line {line text : String} {p : Pattern} (h : Unreadable text) (hline : LineWritten line p) :
    Unreadable (line ++ text) := by
  intro rest offset all hall
  obtain ⟨b, -, hfits, hwrites⟩ := hline
  rw [String.toList_append, List.append_assoc] at hall
  obtain ⟨ts, _, rfl, hts, htsFocus, hlater⟩ := hwrites.tokens_before trivial hall
  obtain ⟨ps, us, vs, rfl, hus, husFocus, hkept, hstops⟩ := h rest _ _ hlater
  refine ⟨(b.pieces ++ [symbol .dot]) ++ ps, ts ++ us, vs, by rw [List.append_assoc], List.rel_append hts hus,
    forall_mem_append_isFocus htsFocus husFocus, hkept.after ts, ?_⟩
  rw [List.append_assoc]
  exact hstops.after_block hfits

/-- A text is not read if its first part is cut into pieces at which the parser stops. -/
theorem unreadable_of_writes {text more : String} {ps : List Piece} {P : List Char → Prop} (h : Writes P text ps)
    (hmore : ∀ rest, P (more.toList ++ rest)) (hsettled : ∀ ts, List.Forall₂ Piece.Matches ps ts → IsSettled ts.reverse)
    (hstops : StopsGroup ps) : Unreadable (text ++ more) := by
  intro rest offset all hall
  rw [String.toList_append, List.append_assoc] at hall
  obtain ⟨ts, us, rfl, hts, hfocus, -⟩ := h.tokens_before (hmore rest) hall
  exact ⟨ps, ts, us, rfl, hts, hfocus, .inl (hsettled ts hts), hstops⟩

/-- The first token of a text is cut out by the rule that applies. -/
theorem tokensFrom_head {cs : List Char} {kind : Kind} {n offset : Nat} {all : List Token}
    (h : lexeme? cs = some (.token kind, n)) (hall : tokensFrom 0 offset cs = .ok all) : ∃ t us, all = t :: us ∧
      t.kind = kind ∧ t.text = String.ofList (cs.take n) ∧ tokensFrom 0 (offset + n) (cs.drop n) = .ok us := by
  obtain ⟨hpos, hle⟩ := lexeme?_le h
  have hlength : (cs.take n).length = n := List.length_take_of_le hle
  have hne : cs.take n ≠ [] := List.ne_nil_of_length_pos (by omega)
  have hwhole : lexeme? (cs.take n ++ cs.drop n) = some (.token kind, (cs.take n).length) := by
    rw [List.take_append_drop, hlength, h]
  have hcut := tokensFrom_cut hne hwhole offset
  rw [List.take_append_drop, hall, hlength] at hcut
  cases hus : tokensFrom 0 (offset + n) (cs.drop n) with
  | error e =>
    rw [hus] at hcut
    cases hcut
  | ok us =>
    rw [hus] at hcut
    exact ⟨_, us, Except.ok.inj hcut, rfl, rfl, rfl⟩

/-- A text is not read if the parser stops at whatever token comes next. -/
theorem unreadable_of_next {text more : String} {ps : List Piece} {P : List Char → Prop} (h : Writes P text ps)
    (hmore : ∀ rest, P (more.toList ++ rest)) (hne : more.toList ≠ [])
    (hnext : ∀ rest lexeme n, lexeme? (more.toList ++ rest) = some (lexeme, n) → ∃ kind, lexeme = .token kind ∧
      kind ∉ hintKinds ∧ kind ≠ .symbol .slash ∧ (∀ hint, kind ≠ .focus hint) ∧
      ∀ text, StopsGroup (ps ++ [.exact kind text])) : Unreadable (text ++ more) := by
  intro rest offset all hall
  rw [String.toList_append, List.append_assoc] at hall
  obtain ⟨ts, us, rfl, hts, hfocus, hlater⟩ := h.tokens_before (hmore rest) hall
  cases hlexeme : lexeme? (more.toList ++ rest) with
  | none =>
    obtain ⟨c, cs, hcs⟩ := List.exists_cons_of_ne_nil (List.append_ne_nil_of_left_ne_nil hne rest)
    rw [hcs] at hlater hlexeme
    rw [tokensFrom, hlexeme] at hlater
    cases hlater
  | some found =>
    obtain ⟨lexeme, n⟩ := found
    obtain ⟨kind, rfl, hhint, hslash, hnone, hstops⟩ := hnext rest lexeme n hlexeme
    obtain ⟨t, us, rfl, rfl, -⟩ := tokensFrom_head hlexeme hlater
    have ht : (Piece.exact t.kind t.text).Matches t := ⟨rfl, rfl⟩
    refine ⟨ps ++ [.exact t.kind t.text], ts ++ [t], us, by simp, List.rel_append hts (.cons ht .nil), ?_,
      .inl ⟨t, ts.reverse, by simp, hhint, fun h => absurd h hslash⟩, hstops _⟩
    exact forall_mem_append_isFocus hfocus (List.forall_mem_singleton.2 (isFocus_of_kind hnone))

/-! ### Queries that are not read -/

/-- A query is not read where the text of its group is not. -/
theorem parse_of_unreadable {projection body : String} (hprojection : SelectedWritten projection)
    (h : Unreadable body) :
    ∃ e, parse ("SELECT DISTINCT " ++ projection ++ "\nWHERE \x7b\n" ++ body).toList = .error e := by
  obtain ⟨item, hitem, hselected⟩ := hprojection
  set text := ("SELECT DISTINCT " ++ projection ++ "\nWHERE \x7b\n" ++ body).toList with htext
  cases htokens : tokens text with
  | error e => exact ⟨_, parse_of_tokens_error htokens⟩
  | ok out =>
    cases hall : tokensFrom 0 0 text with
    | error e =>
      rw [tokens, hall] at htokens
      cases htokens
    | ok all =>
      have hattach : attachHints [] all = .ok out := by rwa [tokens, hall] at htokens
      rw [htext, String.toList_append] at hall
      obtain ⟨ts, _, rfl, hts, htsFocus, hlater⟩ := (recommendationStart_written hselected).tokens_before trivial hall
      rw [← List.append_nil body.toList] at hlater
      obtain ⟨ps, us, vs, rfl, hus, husFocus, hkept, hstops⟩ := h _ _ _ hlater
      rw [← List.append_assoc] at hattach
      obtain ⟨later, rfl⟩ :=
        attachHints_kept (forall_mem_append_isFocus htsFocus husFocus) (hkept.after ts) hattach
      have hahead : Ahead ((.keyword "SELECT" :: .keyword "DISTINCT" :: item.pieces) ++
          [.keyword "WHERE", symbol .openBrace] ++ ps) (ts ++ us ++ later) later :=
        ahead_of_forall₂_append (List.rel_append hts hus) later
      obtain ⟨e, scope, hfail⟩ := parseTokens_refuses hitem hstops (markers_of_forall₂ hus husFocus) hahead text.length
      exact ⟨e, by simp only [parse, parseInto, htokens, hfail]; rfl⟩

end PointOfFocus.Query
