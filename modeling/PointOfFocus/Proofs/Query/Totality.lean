import PointOfFocus.Proofs.Query.Faults
import PointOfFocus.Proofs.Query.Shape
import PointOfFocus.Proofs.Text.Escape

/-!
# The faults of a query have a place

Reading a query gives a scope or a fault of the query with its place. There are two exceptions (`parse_reported`). One
is an escape in a quoted text that names no character. The other is the length of a path with more digits than are read
as a number; it is met while the text is cut into tokens, so every text with such a path has that fault.
-/

namespace PointOfFocus.Query

open PointOfFocus.Number
open PointOfFocus.Rdf
open PointOfFocus.Text

/-! ### Runs of digits -/

theorem isBlank_of_isDigit {c : Char} (h : isDigit c = true) : isBlank c = false := by
  have hapart : ∀ first ∈ digitZeros, ∀ range ∈ blankRanges, first + 9 < range.1 ∨ range.2 < first := by decide
  obtain ⟨value, hvalue⟩ := Option.isSome_iff_exists.1 h
  obtain ⟨first, hfirst, -⟩ := Option.map_eq_some_iff.1 hvalue
  have hin := List.find?_some hfirst
  simp only [Bool.and_eq_true, decide_eq_true_eq] at hin
  rw [Bool.eq_false_iff]
  intro hblank
  obtain ⟨range, hrange, hc⟩ := List.any_eq_true.1 hblank
  have := hapart first (List.mem_of_find?_eq_some hfirst) range hrange
  simp only [Bool.and_eq_true, decide_eq_true_eq] at hc
  omega

private theorem ne_of_isDigit {c : Char} (h : isDigit c = true) : ∀ d ∈ ['-', '+', '_'], c ≠ d := by
  have hmarks : ∀ d ∈ ['-', '+', '_'], isDigit d = false := by decide
  rintro d hd rfl
  rw [hmarks c hd] at h
  cases h

private theorem isDigitRun_of_forall {cs : List Char} (hne : cs ≠ []) (h : ∀ c ∈ cs, isDigit c = true) :
    isDigitRun cs = true := by
  fun_induction isDigitRun cs with
  | case1 => exact absurd rfl hne
  | case2 c => exact h c (by simp)
  | case3 c cs ih => exact absurd rfl (ne_of_isDigit (h '_' (by simp)) '_' (by simp))
  | case4 c cs hsingle hmark ih =>
    obtain ⟨hc, hcs⟩ := List.forall_mem_cons.1 h
    rw [hc, ih (fun hnil => hsingle hnil) hcs, Bool.and_self]

private theorem splitSign_of_forall {cs : List Char} (h : ∀ c ∈ cs, isDigit c = true) : splitSign cs = (false, cs) := by
  unfold splitSign
  split
  · exact absurd rfl (ne_of_isDigit (h '-' (by simp)) '-' (by simp))
  · exact absurd rfl (ne_of_isDigit (h '+' (by simp)) '+' (by simp))
  · rfl

private theorem trimPadding_of_forall {cs : List Char} (h : ∀ c ∈ cs, isDigit c = true) : trimPadding cs = cs := by
  have hdrop : ∀ cs : List Char, (∀ c ∈ cs, isDigit c = true) → cs.dropWhile isPadding = cs := by
    intro cs hcs
    cases cs with
    | nil => rfl
    | cons c cs => simp [isPadding, isBlank_of_isDigit (hcs c List.mem_cons_self)]
  rw [trimPadding, hdrop cs h, hdrop _ (fun c hc => h c (List.mem_reverse.1 hc)), List.reverse_reverse]

/-- A run of digits is a number unless it is too long. -/
theorem readInteger_of_forall {text : String} (hne : text.toList ≠ []) (h : ∀ c ∈ text.toList, isDigit c = true) :
    readInteger text =
      if maxDigits < text.length then .error (.tooLong text.length) else .ok (digitsValue text.toList) := by
  have hpart : ∀ c ∈ text.toList, (isDigit c || c = '_') = true := fun c hc => by rw [h c hc, Bool.true_or]
  have hdigits : text.toList.filter (· ≠ '_') = text.toList :=
    List.filter_eq_self.2 fun c hc => decide_eq_true (ne_of_isDigit (h c hc) '_' (by simp))
  have hrest : text.toList.dropWhile (fun c => isDigit c || c = '_') = [] := List.dropWhile_eq_nil_iff.2 hpart
  simp only [readInteger, trimPadding_of_forall h, splitSign_of_forall h, List.takeWhile_eq_self_iff.2 hpart, hdigits,
    hrest, isDigitRun_of_forall hne h, String.length_toList]
  rfl

/-! ### The texts of tokens -/

/-- The text of a token of which the kind says what it is: digits, or the characters of a symbol. -/
def Token.IsSpelled (t : Token) : Prop :=
  match t.kind with
  | .integer => t.text.toList ≠ [] ∧ ∀ c ∈ t.text.toList, isDigit c = true
  | .symbol x => t.text = x.text
  | _ => True

/-- A token that is cut from the text is spelled as the parser expects it of its kind. -/
theorem lexeme?_spelled {cs : List Char} {kind : Kind} {length start stop : Nat}
    (h : lexeme? cs = some (.token kind, length)) :
    Token.IsSpelled ⟨kind, String.ofList (cs.take length), start, stop⟩ := by
  cases kind with
  | integer =>
    have hrule : integer? cs = some length := by
      simp [lexeme?] at h
      simp [h]
    unfold integer? runLength? at hrule
    split at hrule
    · cases hrule
    next hrun =>
      cases hrule
      simp only [Token.IsSpelled, String.toList_ofList, take_takeWhile]
      exact ⟨by simpa using hrun, fun c hc => List.mem_takeWhile_imp hc⟩
  | symbol x =>
    have hrule : symbol? cs = some x ∧ x.text.length = length := by
      simp [lexeme?] at h
      simp [h]
    obtain ⟨hsymbol, rfl⟩ := hrule
    unfold symbol? at hsymbol
    have hfound := List.find?_some hsymbol
    have hprefix := List.isPrefixOf_iff_prefix.1 hfound
    simp only [Token.IsSpelled]
    rw [← String.length_toList, ← List.prefix_iff_eq_take.1 hprefix, String.ofList_toList]
  | _ => trivial

/-! ### The lengths of paths -/

/-- The tokens, which are given last first, end in a number of too many digits and a slash. -/
def EndsLong (n : Nat) (seen : List Token) : Prop :=
  ∃ slash number rest, seen = slash :: number :: rest ∧ slash.kind = .symbol .slash ∧ number.kind = .integer ∧
    number.text.length = n ∧ maxDigits < n

/-- Only the tokens after the last point of focus matter. -/
private theorem EndsLong.of_takeWhile {n : Nat} {seen done : List Token} (h : EndsLong n seen)
    (hsame : seen.takeWhile (!·.isFocus) = done.takeWhile (!·.isFocus)) : EndsLong n done := by
  obtain ⟨slash, number, rest, rfl, hslash, hnumber, hn⟩ := h
  have htake : (slash :: number :: rest).takeWhile (!·.isFocus) = slash :: number :: rest.takeWhile (!·.isFocus) := by
    simp [Token.isFocus, hslash, hnumber]
  obtain ⟨after, hafter⟩ : slash :: number :: rest.takeWhile (!·.isFocus) <+: done := by
    rw [← htake, hsame]
    exact List.takeWhile_prefix _
  exact ⟨slash, number, _, hafter.symm, hslash, hnumber, hn⟩

private theorem attachFocus_error_iff {t : Token} {seen : List Token} {e : TokenError} (h : ∀ u ∈ seen, u.IsSpelled) :
    attachFocus t seen = .error e ↔ ∃ n, e = .pathLength (.tooLong n) ∧ EndsLong n seen := by
  unfold attachFocus
  split
  · simp [EndsLong]
  · simp [EndsLong]
  next previous before rest =>
    split
    next hkinds =>
      simp only [Bool.and_eq_true, decide_eq_true_eq] at hkinds
      have hspelled := h before (by simp)
      simp only [Token.IsSpelled, hkinds.2] at hspelled
      rw [readInteger_of_forall hspelled.1 hspelled.2]
      by_cases hlong : maxDigits < before.text.length
      · simp [EndsLong, hkinds, hlong, eq_comm]
      · simp [EndsLong, hkinds, hlong]
    next hkinds =>
      refine iff_of_false nofun ?_
      rintro ⟨n, -, slash, number, others, heq, hslash, hnumber, -⟩
      cases heq
      simp [hslash, hnumber] at hkinds

private theorem attachFocus_isFocus {t : Token} {seen after : List Token} (h : attachFocus t seen = .ok after)
    (ht : t.isFocus = true) : ∃ u rest, after = u :: rest ∧ u.isFocus = true := by
  have htouching : ∀ previous rest, ∃ u others, attachFocus.touching t previous rest = u :: others ∧
      u.isFocus = true := by
    intro previous rest
    unfold attachFocus.touching
    repeat' split
    all_goals
      first
      | exact ⟨_, _, rfl, rfl⟩
      | exact ⟨_, _, rfl, ht⟩
  unfold attachFocus at h
  split at h
  · cases h
    exact ⟨_, _, rfl, ht⟩
  · cases h
    exact htouching _ _
  · split at h
    · split at h
      · cases h
        exact ⟨_, _, rfl, rfl⟩
      · cases h
    · cases h
      exact htouching _ _

/-- A point of focus ahead stands after a number of too many digits and a slash. -/
def LongAhead (n : Nat) (done ts : List Token) : Prop :=
  ∃ before focus after, ts = before ++ focus :: after ∧ focus.isFocus = true ∧ EndsLong n (before.reverse ++ done)

private theorem longAhead_cons {n : Nat} {t : Token} {done ts : List Token} :
    LongAhead n done (t :: ts) ↔ t.isFocus = true ∧ EndsLong n done ∨ LongAhead n (t :: done) ts := by
  constructor
  · rintro ⟨before, focus, after, heq, hfocus, hends⟩
    cases before with
    | nil =>
      cases heq
      exact .inl ⟨hfocus, hends⟩
    | cons u before =>
      cases heq
      exact .inr ⟨before, focus, after, rfl, hfocus, by simpa using hends⟩
  · rintro (⟨hfocus, hends⟩ | ⟨before, focus, after, rfl, hfocus, hends⟩)
    · exact ⟨[], t, ts, rfl, hfocus, hends⟩
    · exact ⟨t :: before, focus, after, rfl, hfocus, by simpa using hends⟩

/-- The hints can only fail because of a path length that has too many digits. -/
theorem attachHints_faults {seen done ts : List Token}
    (hsame : seen.takeWhile (!·.isFocus) = done.takeWhile (!·.isFocus))
    (hseen : ∀ t ∈ seen, t.IsSpelled) (hts : ∀ t ∈ ts, t.IsSpelled) :
    (∀ e, attachHints seen ts = .error e → ∃ n, e = .pathLength (.tooLong n) ∧ LongAhead n done ts) ∧
      ∀ n, LongAhead n done ts → ∃ e, attachHints seen ts = .error e := by
  -- `done` holds the tokens met so far and `seen` what became of them: a point of focus takes up what stands before it,
  -- so the two agree only up to the last one.
  induction ts generalizing seen done with
  | nil => exact ⟨nofun, fun n ⟨before, focus, after, heq, _⟩ => by simp at heq⟩
  | cons t ts ih =>
    obtain ⟨ht, hts⟩ := List.forall_mem_cons.1 hts
    simp only [longAhead_cons]
    unfold attachHints
    split
    next hfocus =>
      cases hattach : attachFocus t seen with
      | error e =>
        obtain ⟨n, rfl, hends⟩ := (attachFocus_error_iff hseen).1 hattach
        refine ⟨fun e' he' => ?_, fun _ _ => ⟨_, rfl⟩⟩
        cases he'
        exact ⟨n, rfl, .inl ⟨hfocus, hends.of_takeWhile hsame⟩⟩
      | ok next =>
        have hnone : ∀ n, ¬ EndsLong n done := by
          intro n hends
          rw [(attachFocus_error_iff hseen).2 ⟨n, rfl, hends.of_takeWhile hsame.symm⟩] at hattach
          cases hattach
        obtain ⟨u, rest, rfl, hu⟩ := attachFocus_isFocus hattach hfocus
        have hnext := attachFocus_forall hattach (fun _ _ => trivial) ht hseen
        have hsame' : (u :: rest).takeWhile (!·.isFocus) = (t :: done).takeWhile (!·.isFocus) := by simp [hu, hfocus]
        obtain ⟨hfaults, hlong⟩ := ih hsame' hnext hts
        refine ⟨fun e he => ?_, fun n hn => hlong n ?_⟩
        · obtain ⟨n, rfl, hn⟩ := hfaults e he
          exact ⟨n, rfl, .inr hn⟩
        · exact hn.resolve_left fun h => hnone n h.2
    next hfocus =>
      have hsame' : (t :: seen).takeWhile (!·.isFocus) = (t :: done).takeWhile (!·.isFocus) := by simp [hfocus, hsame]
      obtain ⟨hfaults, hlong⟩ := ih hsame' (List.forall_mem_cons.2 ⟨ht, hseen⟩) hts
      refine ⟨fun e he => ?_, fun n hn => hlong n ?_⟩
      · obtain ⟨n, rfl, hn⟩ := hfaults e he
        exact ⟨n, rfl, .inr hn⟩
      · exact hn.resolve_left fun h => hfocus h.1

/-- Among the tokens there are a number of so many digits, more than are read, a slash and a point of focus in a row. -/
def HasLongPath (n : Nat) (found : List Token) : Prop :=
  ∃ before number slash focus after, found = before ++ number :: slash :: focus :: after ∧ number.kind = .integer ∧
    slash.kind = .symbol .slash ∧ focus.isFocus = true ∧ number.text.length = n ∧ maxDigits < n

theorem longAhead_nil {n : Nat} {ts : List Token} : LongAhead n [] ts ↔ HasLongPath n ts := by
  constructor
  · rintro ⟨before, focus, after, rfl, hfocus, slash, number, rest, hbefore, hslash, hnumber, hn⟩
    have hsplit : before = rest.reverse ++ [number, slash] := by
      rw [List.append_nil] at hbefore
      rw [← List.reverse_reverse before, hbefore]
      simp
    exact ⟨rest.reverse, number, slash, focus, after, by simp [hsplit], hnumber, hslash, hfocus, hn⟩
  · rintro ⟨before, number, slash, focus, after, rfl, hnumber, hslash, hfocus, hn⟩
    exact ⟨before ++ [number, slash], focus, after, by simp, hfocus, slash, number, before.reverse, by simp, hslash,
      hnumber, hn⟩

/-! ### Variables and language tags -/

/-- The checks that are made of the name of a variable and of a language tag let the token through. -/
def Token.Builds (t : Token) : Prop :=
  match t.kind with
  | .var => Term.ofName (dropFirst 1 t.text) = .ok (.var (dropFirst 1 t.text))
  | .language => ∀ lexical, Literal.build lexical (some (dropFirst 1 t.text)) none =
      .ok ⟨lexical, .language (dropFirst 1 t.text)⟩
  | _ => True

private theorem ofName_of_isVarName {x : String} (h : IsVarName x) : Term.ofName x = .ok (.var x) := by
  obtain ⟨hne, hchars⟩ := h
  have hx : x ≠ "" := by
    rintro rfl
    exact hne rfl
  have hbare : Term.bareName x = x := by
    unfold Term.bareName
    split
    next cs hcs => exact absurd (hchars '?' (by simp [hcs])) (by decide)
    · rfl
  simp only [Term.ofName, hx, ↓reduceIte, Term.named, hbare]

private theorem splitOnP_language (parts : List (List Char)) (hparts : ∀ part ∈ parts, ∀ c ∈ part, c ≠ '-')
    (first : List Char)
    (hfirst : ∀ c ∈ first, c ≠ '-') : (first ++ parts.flatMap ('-' :: ·)).splitOnP (· = '-') = first :: parts := by
  induction parts generalizing first with
  | nil => simpa using List.splitOnP_eq_singleton (by simpa using hfirst)
  | cons part parts ih =>
    obtain ⟨hpart, hparts⟩ := List.forall_mem_cons.1 hparts
    rw [List.flatMap_cons, List.cons_append,
      List.splitOnP_append_cons_of_forall_mem (by simpa using hfirst) _ (by simp), ih hparts part hpart]

private theorem isLanguageTag_of_isLanguage {tag : String} (h : IsLanguage tag) : isLanguageTag tag = true := by
  obtain ⟨first, parts, htag, hne, hfirst, hparts⟩ := h
  -- The check overlooks a line end after the tag, and a tag of a query has none.
  have hend : tag.toList.getLast? ≠ some '\n' := by
    intro hlast
    have hmem := List.mem_of_getLast? hlast
    rw [htag, List.mem_append, List.mem_flatMap] at hmem
    rcases hmem with hmem | ⟨part, hpart, hmem⟩
    · exact absurd (hfirst _ hmem) (by decide)
    · rcases List.mem_cons.1 hmem with heq | hmem
      · exact absurd heq (by decide)
      · exact absurd ((hparts part hpart).2 _ hmem) (by decide)
  have hsplit : tag.toList.splitOnP (· = '-') = first :: parts := by
    rw [htag]
    refine splitOnP_language parts ?_ first ?_
    · rintro part hpart c hc rfl
      exact absurd ((hparts part hpart).2 _ hc) (by decide)
    · rintro c hc rfl
      exact absurd (hfirst _ hc) (by decide)
  simp only [isLanguageTag, hend, ↓reduceIte, hsplit, Bool.and_eq_true, Bool.not_eq_true', List.isEmpty_eq_false_iff,
    List.all_eq_true]
  exact ⟨⟨hne, hfirst⟩, hparts⟩

private theorem TokenShape.builds {t : Token} (h : TokenShape t) : t.Builds := by
  unfold TokenShape at h
  unfold Token.Builds
  cases hkind : t.kind with
  | var =>
    rw [hkind] at h
    obtain ⟨mark, x, htext, hx⟩ := h
    have hname : dropFirst 1 t.text = x := by simp [dropFirst, htext]
    rw [hname]
    exact ofName_of_isVarName hx
  | language =>
    rw [hkind] at h
    obtain ⟨tag, htext, htag⟩ := h
    have hname : dropFirst 1 t.text = tag := by simp [dropFirst, htext]
    have hne : tag ≠ "" := by
      rintro rfl
      exact absurd (isLanguageTag_of_isLanguage htag) (by decide)
    intro lexical
    simp only [hname, Literal.build, Option.some.injEq, hne, ↓reduceIte, isLanguageTag_of_isLanguage htag]
  | _ => trivial

/-! ### Reading a query -/

/-- What came of reading a query is a scope or a fault of the query with its place. -/
def IsReported : Except Error Scope → Prop
  | .ok _ => True
  | .error (.at _ cause) => cause.IsOfQuery
  | .error _ => False

/-- The text has a quoted text that cannot be read, because of an escape beyond the last code point. -/
def HasUnreadable (cause : EscapeError) (text : List Char) : Prop :=
  ∃ ts t, tokens text = .ok ts ∧ t ∈ ts ∧ t.IsUnreadable cause ∧
    HasHighEscape (unwrap (quoteWidth t.text) t.text).toList

private theorem quotedText_error {text : String} {cause : EscapeError} (h : quotedText text = .error cause) :
    HasHighEscape (unwrap (quoteWidth text) text).toList := by
  unfold quotedText at h
  cases hread : unescape (unwrap (quoteWidth text) text).toList with
  | error e => exact unescape_error hread
  | ok cs => rw [hread] at h; cases h

private theorem tokensFrom_error {skip offset : Nat} {cs : List Char} {e : TokenError}
    (h : tokensFrom skip offset cs = .error e) : ∃ c place, e = .unexpected c place := by
  fun_induction tokensFrom skip offset cs with
  | case1 => cases h
  | case2 skip offset c cs ih => exact ih h
  | case3 offset c cs _ => exact ⟨c, offset, (Except.error.inj h).symm⟩
  | case4 offset c cs length _ ih => exact ih h
  | case5 offset c cs kind length _ ih =>
    cases hrest : tokensFrom (length - 1) (offset + 1) cs with
    | error e' =>
      rw [hrest] at h
      cases h
      exact ih hrest
    | ok rest => rw [hrest] at h; cases h

/-- A text that cannot be cut into tokens is no query. -/
theorem parse_of_tokens_error {text : List Char} {e : TokenError} (h : tokens text = .error e) :
    parse text = .error (.ofToken e) := by
  simp only [parse, parseInto, h]
  rfl

/-- A sign without a text would be taken for no sign at all. -/
theorem text_ne_of_sign {text : List Char} {ts : List Token} (h : tokens text = .ok ts) :
    ∀ t ∈ ts, t.kind = .symbol .plus ∨ t.kind = .symbol .minus → t.text ≠ "" := by
  intro t ht hkind
  have htext := tokens_forall (fun _ _ _ => trivial) lexeme?_spelled h t ht
  rcases hkind with hkind | hkind
  all_goals
    simp only [Token.IsSpelled, hkind] at htext
    rw [htext]
    decide

/-- Once the text is cut into tokens, only an escape has no place. -/
private theorem parse_of_tokens {text : List Char} {ts : List Token} (h : tokens text = .ok ts) :
    IsReported (parse text) ∨ ∃ cause, parse text = .error (.escape cause) ∧ HasUnreadable cause text := by
  have hparse : parse text = (parseTokens {} ts text.length).1.map fun _ => (parseTokens {} ts text.length).2 := by
    simp only [parse, parseInto, h]
  cases hrun : (parseTokens {} ts text.length).1 with
  | ok a =>
    rw [hparse, hrun]
    exact .inl trivial
  | error e =>
    have hstops := parseTokens_stops {} ts (text_ne_of_sign h) hrun
    rw [hparse, hrun]
    match e, hstops with
    | .at _ _, hstops => exact .inl hstops
    | .escape cause, ⟨t, ht, hunreadable⟩ =>
      exact .inr ⟨cause, rfl, ts, t, h, ht, hunreadable, quotedText_error hunreadable.2⟩

/-- Cutting a text into tokens fails at a character or at the length of a path, and at such a length it always fails. -/
theorem tokens_faults (text : List Char) :
    (∀ e, tokens text = .error e → (∃ c place, e = .unexpected c place) ∨
      ∃ n found, e = .pathLength (.tooLong n) ∧ tokensFrom 0 0 text = .ok found ∧ HasLongPath n found) ∧
    ∀ n found, tokensFrom 0 0 text = .ok found → HasLongPath n found →
      ∃ m, tokens text = .error (.pathLength (.tooLong m)) := by
  unfold tokens
  cases hfound : tokensFrom 0 0 text with
  | error e =>
    refine ⟨fun e' he' => ?_, nofun⟩
    cases he'
    exact .inl (tokensFrom_error hfound)
  | ok found =>
    have hsame : ([] : List Token).takeWhile (!·.isFocus) = ([] : List Token).takeWhile (!·.isFocus) := rfl
    obtain ⟨hfaults, hlong⟩ := attachHints_faults hsame (by simp) (tokensFrom_forall lexeme?_spelled hfound)
    constructor
    · intro e he
      obtain ⟨n, rfl, hn⟩ := hfaults e he
      exact .inr ⟨n, found, rfl, rfl, longAhead_nil.1 hn⟩
    · intro n found' heq hn
      cases heq
      obtain ⟨e, he⟩ := hlong n (longAhead_nil.2 hn)
      obtain ⟨m, rfl, -⟩ := hfaults e he
      exact ⟨m, he⟩

/-- A query is read, or its fault has a place, unless a quoted text cannot be read or the length of a path has more
digits than are read; whenever a path has such a length, that is the fault. -/
theorem parse_reported (text : List Char) :
    (IsReported (parse text) ∨
      (∃ cause, parse text = .error (.escape cause) ∧ HasUnreadable cause text) ∨
      ∃ n found, parse text = .error (.pathLength (.tooLong n)) ∧ tokensFrom 0 0 text = .ok found ∧
        HasLongPath n found) ∧
    (∀ n found, tokensFrom 0 0 text = .ok found → HasLongPath n found →
      ∃ m, parse text = .error (.pathLength (.tooLong m))) ∧
    ∀ ts, tokens text = .ok ts → ∀ t ∈ ts, t.Builds := by
  obtain ⟨hfaults, hlong⟩ := tokens_faults text
  refine ⟨?_, ?_, fun ts hts t ht => (tokens_shaped hts t ht).builds⟩
  · cases htokens : tokens text with
    | ok ts => exact (parse_of_tokens htokens).imp_right .inl
    | error e =>
      rw [parse_of_tokens_error htokens]
      rcases hfaults e htokens with ⟨c, place, rfl⟩ | ⟨n, found, rfl, hfound⟩
      · exact .inl ⟨nofun, nofun⟩
      · exact .inr (.inr ⟨n, found, rfl, hfound⟩)
  · intro n found hfound hn
    obtain ⟨m, hm⟩ := hlong n found hfound hn
    exact ⟨m, parse_of_tokens_error hm⟩

example : (parse "SELECT * \x7b ?s ?p \"\\U00110000\" \x7d".toList).map (fun _ => ()) =
    .error (.escape .notACodePoint) := by decide +kernel

end PointOfFocus.Query
