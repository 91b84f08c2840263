import PointOfFocus.Proofs.Query.Quiet
import PointOfFocus.Proofs.Query.Triples

/-!
# What the parser stops with

The parser stops only with faults of the query. It never meets a bound, because every level of nesting and every item of
a list takes a token of its own; it never adds a pattern that lacks a part, because a subject and a predicate are read
before an object; and it looks for a number only where one starts. What remains is an escape in a quoted text that names
no character: it is met while the text is turned into a literal, and it has no offset (`parseTokens_stops`).

A production is described by `Runs`, which covers both ends: how it stops, and how many tokens it has taken if it
succeeds. The number of tokens that are left is what the bounds are compared with.
-/

namespace PointOfFocus.Query

open PointOfFocus.Rdf
open PointOfFocus.Text

/-- The token is a quoted text with an escape that names no character. -/
def Token.IsUnreadable (t : Token) (cause : EscapeError) : Prop := t.kind = .string ∧ quotedText t.text = .error cause

/-- The cause is a fault of the query: no bound was met, and no number was sought where none starts. -/
def Cause.IsOfQuery (cause : Cause) : Prop := cause ≠ .tooDeep ∧ cause ≠ .missingNumber ""

instance (cause : Cause) : Decidable cause.IsOfQuery :=
  inferInstanceAs (Decidable (cause ≠ .tooDeep ∧ cause ≠ .missingNumber ""))

/-- The parser may stop with the error when it reads the tokens. -/
def Stops (ts : List Token) : Error → Prop
  | .at _ cause => cause.IsOfQuery
  | .escape cause => ∃ t ∈ ts, t.IsUnreadable cause
  | .pathLength _ => False
  | .incomplete => False

/-! ### Runs -/

/-- The tokens that are left are among the given ones, of which no sign is empty, and then the query ends. -/
structure Placed (ts : List Token) (s : State) : Prop where
  ahead : ∀ t ∈ s.ahead, t ∈ ts
  last : s.last.kind = .eof
  signs : ∀ t ∈ ts, t.kind = .symbol .plus ∨ t.kind = .symbol .minus → t.text ≠ ""

/-- From the state the step succeeds as said, or it stops with a fault that it may stop with. -/
structure Runs {α : Type} (ts : List Token) (s : State) (m : Parser α) (Q : α → State → Prop) : Prop where
  run : Placed ts s → match m s with
    | (.ok a, after) => Placed ts after ∧ Q a after
    | (.error e, _) => Stops ts e

/-- At least so many tokens were taken, and the pattern under construction is as before. -/
structure Took (k : Nat) (s after : State) : Prop where
  count : after.ahead.length + k ≤ s.ahead.length
  current : after.scope.current = s.scope.current

private theorem Took.trans {k k' n : Nat} {s middle after : State} (h : Took k s middle) (h' : Took k' middle after)
    (hn : n ≤ k + k') : Took n s after :=
  ⟨by have := h.count; have := h'.count; omega, h'.current.trans h.current⟩

private theorem Took.refl (s : State) : Took 0 s s := ⟨Nat.le_refl _, rfl⟩

private theorem Took.weaken {k n : Nat} {s after : State} (h : Took k s after) (hn : n ≤ k) : Took n s after :=
  h.trans (Took.refl after) hn

variable {ts : List Token}

private theorem Placed.ne_nil {s : State} (h : Placed ts s) (hkind : s.token.kind ≠ .eof) :
    ∃ rest, s.ahead = s.token :: rest := by
  unfold State.token at hkind ⊢
  cases hahead : s.ahead with
  | nil => simp [hahead, h.last] at hkind
  | cons t rest => exact ⟨rest, rfl⟩

private theorem Placed.mem {s : State} (h : Placed ts s) (hkind : s.token.kind ≠ .eof) : s.token ∈ ts := by
  obtain ⟨rest, hahead⟩ := h.ne_nil hkind
  exact h.ahead _ (by rw [hahead]; exact List.mem_cons_self)

private theorem Placed.skip {s : State} (h : Placed ts s) {ahead : List Token} (hahead : ahead <:+ s.ahead) :
    Placed ts { s with ahead } :=
  ⟨fun t ht => h.ahead t (hahead.subset ht), h.last, h.signs⟩

section

variable {α β : Type} {s : State} {Q R : α → State → Prop} {Q' : β → State → Prop}

private theorem Runs.bind {m : Parser α} {f : α → Parser β} (hm : Runs ts s m Q)
    (hf : ∀ a middle, Q a middle → Runs ts middle (f a) Q') : Runs ts s (m >>= f) Q' := by
  constructor
  intro hs
  have hfirst := hm.run hs
  rw [bind_apply]
  rcases hrun : m s with ⟨e | a, middle⟩
  · rw [hrun] at hfirst
    exact hfirst
  · rw [hrun] at hfirst
    exact (hf a middle hfirst.2).run hfirst.1

private theorem Runs.mono {m : Parser α} (hm : Runs ts s m Q) (h : ∀ a after, Q a after → R a after) :
    Runs ts s m R := by
  constructor
  intro hs
  have hfirst := hm.run hs
  rcases hrun : m s with ⟨e | a, after⟩
  · rw [hrun] at hfirst
    exact hfirst
  · rw [hrun] at hfirst
    exact ⟨hfirst.1, h a after hfirst.2⟩

/-- A step of which the result is known. -/
private theorem Runs.of_ok {m : Parser α} {a : α} {after : State} (hm : m s = (.ok a, after))
    (hplaced : Placed ts s → Placed ts after) (h : Q a after) : Runs ts s m Q := by
  constructor
  intro hs
  rw [hm]
  exact ⟨hplaced hs, h⟩

/-- A step that stops with a known fault. -/
private theorem Runs.of_error {m : Parser α} {e : Error} {after : State} (hm : m s = (.error e, after))
    (h : Placed ts s → Stops ts e) : Runs ts s m Q := by
  constructor
  intro hs
  rw [hm]
  exact h hs

/-- A step of which the result is known, and what is done after it. -/
private theorem Runs.step {m : Parser α} {f : α → Parser β} {a : α} {middle : State} (hm : m s = (.ok a, middle))
    (hplaced : Placed ts s → Placed ts middle) (hf : Runs ts middle (f a) Q') : Runs ts s (m >>= f) Q' :=
  (Runs.of_ok (Q := fun b after => b = a ∧ after = middle) hm hplaced ⟨rfl, rfl⟩).bind fun _ _ ⟨hb, hafter⟩ =>
    hb ▸ hafter ▸ hf

private theorem Runs.pure {a : α} (h : Q a s) : Runs ts s (Pure.pure a : Parser α) Q := .of_ok rfl id h

private theorem Runs.failAt {t : Token} {cause : Cause} (h : cause.IsOfQuery) :
    Runs ts s (Query.failAt t cause : Parser α) Q :=
  .of_error rfl fun _ => h

private theorem Runs.fail {cause : Cause} (h : cause.IsOfQuery) : Runs ts s (Query.fail cause : Parser α) Q :=
  .of_error rfl fun _ => h

private theorem Runs.failAt_bind {t : Token} {cause : Cause} {f : α → Parser β} (h : cause.IsOfQuery) :
    Runs ts s (Query.failAt t cause >>= f) Q' := .of_error rfl fun _ => h

private theorem Runs.fail_bind {cause : Cause} {f : α → Parser β} (h : cause.IsOfQuery) :
    Runs ts s (Query.fail cause >>= f) Q' := .of_error rfl fun _ => h

private theorem Runs.ite {p : Prop} [Decidable p] {m n : Parser α} (hm : p → Runs ts s m Q) (hn : ¬p → Runs ts s n Q) :
    Runs ts s (if p then m else n) Q := by
  split
  next hp => exact hm hp
  next hp => exact hn hp

private theorem Runs.token {f : Token → Parser β} (h : Runs ts s (f s.token) Q') : Runs ts s (token >>= f) Q' :=
  .step (token_apply s) id h

private theorem Runs.get {f : State → Parser β} (h : Runs ts s (f s) Q') : Runs ts s (get >>= f) Q' :=
  .step (get_apply s) id h

/-- Taking a token that is not the end. -/
private theorem Runs.advance {f : Token → Parser β} (hkind : s.token.kind ≠ .eof)
    (h : ∀ middle, Took 1 s middle → middle.token = s.next → Runs ts middle (f s.token) Q') :
    Runs ts s (advance >>= f) Q' := by
  constructor
  intro hs
  obtain ⟨rest, hahead⟩ := hs.ne_nil hkind
  have htook : Took 1 s { s with ahead := s.ahead.tail } := ⟨by simp [hahead], rfl⟩
  rw [bind_apply, advance_apply]
  exact (h _ htook rfl).run (hs.skip (List.tail_suffix _))

/-- A test for a symbol. -/
private theorem Runs.ifSymbol {x : Symbol} {m n : Parser β} (hm : s.token.kind = .symbol x → Runs ts s m Q')
    (hn : s.token.kind ≠ .symbol x → Runs ts s n Q') :
    Runs ts s (atSymbol x >>= fun found => if found then m else n) Q' :=
  .step (atSymbol_apply x s) id (.ite (fun h => hm (of_decide_eq_true h)) fun h => hn fun heq => h (decide_eq_true heq))

/-- A keyword is a word. -/
theorem Token.isKeyword_kind {t : Token} {words : List String} (h : t.isKeyword words = true) : t.kind = .word :=
  of_decide_eq_true (Bool.and_eq_true_iff.1 h).1

/-- A test for a keyword, which is not the end. -/
private theorem Runs.ifKeyword {words : List String} {m n : Parser β} (hm : s.token.kind = .word → Runs ts s m Q')
    (hn : Runs ts s n Q') : Runs ts s (atKeyword words >>= fun found => if found then m else n) Q' :=
  .step (atKeyword_apply words s) id (.ite (fun h => hm (Token.isKeyword_kind h)) fun _ => hn)

private theorem Runs.collect {change : Scope → Scope} {f : Unit → Parser β}
    (h : Runs ts { s with scope := change s.scope } (f ()) Q') : Runs ts s (collect change >>= f) Q' :=
  .step (collect_apply change s) (fun hs => ⟨hs.ahead, hs.last, hs.signs⟩) h

private theorem Runs.nested {m : Parser α} {Q : α → Nat → Prop}
    (h : Runs ts { s with scope := { s.scope with current := {} } } m fun a after => Q a after.ahead.length) :
    Runs ts s (nested m) fun a after => Q a after.ahead.length ∧ after.scope.current = s.scope.current := by
  constructor
  intro hs
  have hrun := h.run ⟨hs.ahead, hs.last, hs.signs⟩
  rw [nested_apply]
  split at hrun
  next a after hok =>
    rw [hok]
    exact ⟨⟨hrun.1.ahead, hrun.1.last, hs.signs⟩, hrun.2, rfl⟩
  next e after herror =>
    rw [herror]
    exact hrun

private theorem Runs.placed {m : Parser α} (h : Placed ts s → Runs ts s m Q) : Runs ts s m Q :=
  ⟨fun hs => (h hs).run hs⟩

/-- What is done after tokens were taken. -/
private theorem Runs.after {m : Parser α} {k k' n : Nat} {middle : State}
    (h : Runs ts middle m fun _ after => Took k' middle after)
    (htook : Took k s middle) (hn : n ≤ k + k') : Runs ts middle m fun _ after => Took n s after :=
  h.mono fun _ _ h' => htook.trans h' hn

end

/-! ### Basic steps -/

section

variable {s : State}

private theorem advance_runs (h : s.token.kind ≠ .eof) :
    Runs ts s advance fun t after => Took 1 s after ∧ t = s.token := by
  constructor
  intro hs
  obtain ⟨rest, hahead⟩ := hs.ne_nil h
  exact ⟨hs.skip (List.tail_suffix _), ⟨by simp [hahead], rfl⟩, rfl⟩

private theorem expect_runs (kind : Kind) (what : String) (h : kind ≠ .eof) :
    Runs ts s (expect kind what) fun t after => Took 1 s after ∧ t.kind = kind := by
  refine .token (.ite (fun hkind => ?_) fun _ => .token (.fail ⟨nofun, nofun⟩))
  exact (advance_runs (hkind ▸ h)).mono fun t after ⟨htook, ht⟩ => ⟨htook, ht ▸ hkind⟩

private theorem expectSymbol_runs (x : Symbol) : Runs ts s (expectSymbol x) fun _ after => Took 1 s after :=
  (expect_runs (.symbol x) _ nofun).mono fun _ _ h => h.1

private theorem expectKeyword_runs (word : String) : Runs ts s (expectKeyword word) fun _ after => Took 1 s after :=
  .ifKeyword (fun hkind => (advance_runs (by simp [hkind])).mono fun _ _ h => h.1) (.token (.fail ⟨nofun, nofun⟩))

private theorem skipKeyword_runs (words : List String) : Runs ts s (skipKeyword words) fun _ after => Took 0 s after :=
  .ifKeyword (fun hkind => .advance (by simp [hkind]) fun _ htook _ => .pure (htook.weaken (by omega)))
    (.pure (Took.refl s))

private theorem freshVariable_runs : Runs ts s freshVariable fun _ after => Took 0 s after :=
  .of_ok rfl (fun h => ⟨h.ahead, h.last, h.signs⟩) ⟨Nat.le_refl _, rfl⟩

private theorem skipSemicolons_runs : Runs ts s skipSemicolons fun _ after => Took 0 s after := by
  have hsuffix : s.ahead.dropWhile (·.kind = .symbol .semicolon) <:+ s.ahead := List.dropWhile_suffix _
  exact .of_ok rfl (fun h => h.skip hsuffix) ⟨hsuffix.length_le, rfl⟩

private theorem afterBrackets_stops {opening : Token} {awaited : List Symbol} {ts' rest : List Token} {e : Error}
    (h : afterBrackets opening awaited ts' = .error (e, rest)) : Stops ts e := by
  fun_induction afterBrackets opening awaited ts' with
  | case1 => cases h
  | case2 => cases h; exact ⟨by simp, by simp⟩
  | case3 _ _ _ _ _ _ _ _ ih => exact ih h
  | case4 _ _ _ _ _ _ ih => exact ih h
  | case5 => cases h; exact ⟨by simp, by simp⟩
  | case6 _ _ _ _ _ _ _ _ _ ih => exact ih h
  | case7 _ _ _ _ _ ih => exact ih h

/-- Brackets are skipped only where one opens. -/
private theorem skipBrackets_runs (h : s.token.closing?.isSome) :
    Runs ts s skipBrackets fun _ after => Took 1 s after := by
  have hkind : s.token.kind ≠ .eof := by
    intro hkind
    simp [Token.closing?, hkind] at h
  refine .advance hkind fun middle htook _ => .get ?_
  cases hrest : afterBrackets s.token s.token.closing?.toList middle.ahead with
  | error fault => exact .of_error rfl fun _ => afterBrackets_stops hrest
  | ok rest =>
    have hsuffix := afterBrackets_suffix hrest
    have hskip : Took 0 middle { middle with ahead := rest } := ⟨hsuffix.length_le, rfl⟩
    exact .of_ok rfl (fun hs => hs.skip hsuffix) (htook.trans hskip (by omega))

private theorem skipBracket_runs {x : Symbol} (hx : x.closing?.isSome) (cause : Cause) (h : cause.IsOfQuery) :
    Runs ts s (skipBracket x cause) fun _ after => Took 1 s after :=
  .ifSymbol (fun hkind => skipBrackets_runs (by simpa [Token.closing?, hkind] using hx)) fun _ => .fail h

/-! ### Names, literals and the point of focus -/

private theorem resolve_runs (label : String) (t : Token) :
    Runs ts s (resolve label t) fun _ after => Took 0 s after := by
  refine .get ?_
  cases s.scope.prefixIri? label with
  | none => exact .failAt ⟨nofun, nofun⟩
  | some iri => exact .pure (Took.refl s)

private theorem resolveName_runs (t : Token) : Runs ts s (resolveName t) fun _ after => Took 0 s after :=
  (resolve_runs _ t).bind fun _ _ htook => .pure htook

private theorem expectIri_runs (what : String) : Runs ts s (expectIri what) fun _ after => Took 1 s after :=
  (expect_runs .iri what nofun).bind fun _ _ htook => .pure htook.1

private theorem datatypeIri_runs : Runs ts s datatypeIri fun _ after => Took 1 s after := by
  refine .token ?_
  split
  next hkind => exact .advance (by simp [hkind]) fun _ htook _ => .pure htook
  next hkind => exact .advance (by simp [hkind]) fun _ htook _ => (resolveName_runs _).after htook (by omega)
  · exact .fail ⟨nofun, nofun⟩

/-- A quoted text is the only place of an escape. -/
private theorem textLiteral_runs (h : s.token.kind = .string) :
    Runs ts s textLiteral fun _ after => Took 1 s after := by
  refine .placed fun hs => ?_
  have hmem := hs.mem (by simp [h])
  refine .advance (by simp [h]) fun middle htook _ => ?_
  cases htext : quotedText s.token.text with
  | error cause => exact .of_error rfl fun _ => ⟨s.token, hmem, h, htext⟩
  | ok lexical =>
    refine .token ?_
    split
    next hkind => exact .advance (by simp [hkind]) fun _ htook' _ => .pure (htook.trans htook' (by omega))
    next hkind =>
      refine .advance (by simp [hkind]) fun _ htook' _ => datatypeIri_runs.bind fun _ _ htook'' => ?_
      exact .pure ((htook.trans htook' (Nat.le_refl _)).trans htook'' (by omega))
    · exact .pure htook

private theorem unsignedNumber_runs {sign : String} (h : sign ≠ "" ∨ (numberType? s.token.kind).isSome) :
    Runs ts s (unsignedNumber sign) fun _ after => Took 1 s after := by
  refine .token ?_
  cases htype : numberType? s.token.kind with
  | some type => exact .advance (numberType?_ne_eof htype) fun _ htook _ => .pure htook
  | none =>
    have hsign : sign ≠ "" := h.resolve_right (by simp [htype])
    exact .fail ⟨nofun, fun hcause => hsign (Cause.missingNumber.inj hcause)⟩

end

section

variable {s : State}

private theorem number_runs
    (h : (numberType? s.token.kind).isSome ∨ s.token.kind = .symbol .plus ∨ s.token.kind = .symbol .minus) :
    Runs ts s number fun _ after => Took 1 s after := by
  refine .placed fun hs => ?_
  -- A number is looked for where a sign or a number stands, so that a missing one is reported with its sign.
  refine .step (atSymbol_apply _ s) id (.step (atSymbol_apply _ s) id (.ite (fun hsign => ?_) fun hsign => ?_))
  · have hkind : s.token.kind = .symbol .plus ∨ s.token.kind = .symbol .minus := by simpa using hsign
    have hend : s.token.kind ≠ .eof := by
      rintro hend
      simp [hend] at hkind
    have htext := hs.signs _ (hs.mem hend) hkind
    exact .advance hend fun middle htook _ => (unsignedNumber_runs (.inl htext)).after htook (by omega)
  · exact unsignedNumber_runs (.inr (h.resolve_right (by simpa using hsign)))

private theorem pointOfFocus_runs (role : Role) (h : s.token.kind ≠ .eof) :
    Runs ts s (pointOfFocus role) fun _ after => Took 1 s after := by
  refine .advance h fun middle htook _ => .get (.ite (fun _ => .failAt_bind ⟨nofun, nofun⟩) fun _ => ?_)
  refine .step (modify_apply _ _) (fun hs => ⟨hs.ahead, hs.last, hs.signs⟩) ?_
  have htook' : Took 1 s { middle with focus := some ⟨s.token, role⟩ } := ⟨htook.count, htook.current⟩
  generalize { middle with focus := some ⟨s.token, role⟩ } = focused at htook'
  split
  · refine .ite (fun _ => .failAt_bind ⟨nofun, nofun⟩) fun _ => .ite (fun _ => .failAt_bind ⟨nofun, nofun⟩) fun _ => ?_
    exact .collect (.pure ⟨htook'.count, htook'.current⟩)
  · refine (resolve_runs _ _).bind fun _ _ hresolved => ?_
    have htook'' := htook'.trans hresolved (Nat.le_refl _)
    exact .collect (.pure ⟨htook''.count, htook''.current⟩)
  · refine .collect (.pure ⟨htook'.count, ?_⟩)
    unfold Scope.setKeyword
    split
    · exact htook'.current
    · exact htook'.current
  · exact .pure htook'

private theorem simpleTerm_runs (role : Role) : Runs ts s (simpleTerm role) fun _ after => Took 1 s after := by
  have hnumber : (numberType? s.token.kind).isSome ∨ s.token.kind = .symbol .plus ∨ s.token.kind = .symbol .minus →
      Runs ts s (do return Term.literal (← number)) fun _ after => Took 1 s after :=
    fun h => (number_runs h).bind fun _ _ htook => .pure htook
  refine .token ?_
  split
  next hkind => exact pointOfFocus_runs role (by simp [hkind])
  next hkind => exact .advance (by simp [hkind]) fun _ htook _ => .pure htook
  next hkind => exact .advance (by simp [hkind]) fun _ htook _ => .pure htook
  next hkind =>
    refine .advance (by simp [hkind]) fun _ htook _ => (resolveName_runs _).bind fun _ _ hresolved => ?_
    exact .pure (htook.trans hresolved (by omega))
  next hkind => exact .advance (by simp [hkind]) fun _ htook _ => .pure htook
  next hkind => exact (textLiteral_runs hkind).bind fun _ _ htook => .pure htook
  next hkind => exact hnumber (.inl (by simp [hkind, numberType?]))
  next hkind => exact hnumber (.inl (by simp [hkind, numberType?]))
  next hkind => exact hnumber (.inl (by simp [hkind, numberType?]))
  next hkind => exact hnumber (.inr (.inl hkind))
  next hkind => exact hnumber (.inr (.inr hkind))
  · refine .ite (fun htruth => ?_) fun _ => .fail ⟨nofun, nofun⟩
    have hword : s.token.kind = .word := of_decide_eq_true (Bool.and_eq_true_iff.1 htruth).1
    exact .advance (by simp [hword]) fun _ htook _ => .pure htook

/-! ### Verbs -/

private theorem separated_runs {α : Type} {x : Symbol} {item : Parser α} {room : Nat}
    (h : ∀ s, s.ahead.length ≤ room → Runs ts s item fun _ after => Took 1 s after) :
    ∀ bound s, s.ahead.length < bound → s.ahead.length ≤ room →
      Runs ts s (separated x item bound) fun _ after => Took 0 s after
  | 0, _, hbound, _ => absurd hbound (Nat.not_lt_zero _)
  | bound + 1, s, hbound, hroom => by
    refine .ifSymbol (fun hkind => .advance (by simp [hkind]) fun middle htook _ => ?_) fun _ => .pure (Took.refl s)
    have hcount := htook.count
    refine (h middle (by omega)).bind fun _ after hitem => ?_
    have hcount' := hitem.count
    refine (separated_runs h bound after (by omega) (by omega)).bind fun _ _ hrest => .pure ?_
    exact htook.trans (hitem.trans hrest (Nat.zero_le _)) (Nat.zero_le _)

section

variable {inner : Parser Term} {room : Nat}
  (hinner : ∀ s, s.ahead.length < room → Runs ts s inner fun _ after => Took 1 s after)

include hinner

private theorem pathPrimary_runs (h : s.ahead.length ≤ room) :
    Runs ts s (pathPrimary inner) fun _ after => Took 1 s after := by
  refine .token ?_
  split
  next hkind => exact .advance (by simp [hkind]) fun _ htook _ => .pure htook
  next hkind =>
    refine .advance (by simp [hkind]) fun _ htook _ => (resolveName_runs _).bind fun _ _ hresolved => ?_
    exact .pure (htook.trans hresolved (by omega))
  next hkind =>
    refine .advance (by simp [hkind]) fun middle htook _ => ?_
    have hcount := htook.count
    refine (hinner middle (by omega)).bind fun _ _ hpath => (expectSymbol_runs _).bind fun _ _ hclosed => ?_
    exact .pure (htook.trans (hpath.trans hclosed (Nat.zero_le _)) (by omega))
  · exact .fail ⟨nofun, nofun⟩
  · refine .ite (fun hword => ?_) fun _ => .fail ⟨nofun, nofun⟩
    have hkind : s.token.kind = .word := of_decide_eq_true (Bool.and_eq_true_iff.1 hword).1
    exact .advance (by simp [hkind]) fun _ htook _ => .pure htook

private theorem pathStepRest_runs (inverse : Bool) (h : s.ahead.length ≤ room) :
    Runs ts s (pathStepRest inner inverse) fun _ after => Took 1 s after := by
  refine (pathPrimary_runs hinner h).bind fun _ _ hpath => .token ?_
  exact .ite (fun _ => .fail_bind ⟨nofun, nofun⟩) fun _ => .pure hpath

private theorem pathStep_runs (h : s.ahead.length ≤ room) :
    Runs ts s (pathStep inner) fun _ after => Took 1 s after := by
  rw [pathStep_eq]
  refine .step (atSymbol_apply _ s) id (.ite (fun hcaret => ?_) fun _ => pathStepRest_runs hinner _ h)
  have hkind : s.token.kind = .symbol .caret := of_decide_eq_true hcaret
  refine .advance (by simp [hkind]) fun middle htook _ => ?_
  have hcount := htook.count
  exact (pathStepRest_runs hinner _ (by omega)).after htook (by omega)

private theorem pathSequence_runs {bound : Nat} (h : s.ahead.length ≤ room) (hbound : s.ahead.length ≤ bound) :
    Runs ts s (pathSequence bound inner) fun _ after => Took 1 s after := by
  refine (pathStep_runs hinner h).bind fun first middle hfirst => ?_
  have hcount := hfirst.count
  refine (separated_runs (fun _ => pathStep_runs hinner) bound middle (by omega) (by omega)).bind fun rest _ hrest => ?_
  have htook : Took 1 s _ := hfirst.trans hrest (by omega)
  cases rest with
  | nil => exact .pure htook
  | cons second rest => exact .pure htook

end

private theorem path_runs : ∀ bound s, s.ahead.length < bound → Runs ts s (path bound) fun _ after => Took 1 s after
  | 0, _, h => absurd h (Nat.not_lt_zero _)
  | bound + 1, s, h => by
    have hitem : ∀ s, s.ahead.length ≤ bound →
        Runs ts s (pathSequence bound (path bound)) fun _ after => Took 1 s after :=
      fun _ hs => pathSequence_runs (path_runs bound) hs hs
    refine (hitem s (by omega)).bind fun first middle hfirst => ?_
    have hcount := hfirst.count
    refine (separated_runs hitem bound middle (by omega) (by omega)).bind fun rest _ hrest => ?_
    have htook : Took 1 s _ := hfirst.trans hrest (by omega)
    cases rest with
    | nil => exact .pure htook
    | cons second rest => exact .pure htook

private theorem verb_runs {bound : Nat} (h : s.ahead.length < bound) :
    Runs ts s (verb bound) fun _ after => Took 1 s after := by
  refine .token ?_
  split
  next hkind => exact pointOfFocus_runs _ (by simp [hkind])
  next hkind => exact .advance (by simp [hkind]) fun _ htook _ => .pure htook
  · exact path_runs bound s h

end

/-! ### Triples -/

private theorem collectPattern_runs {s : State} {subject predicate object : Term}
    (h : s.scope.current = ⟨some subject, some predicate, some object⟩) :
    Runs ts s collectPattern fun _ after => Took 0 s after :=
  .of_ok (collectPattern_apply h) (fun hs => ⟨hs.ahead, hs.last, hs.signs⟩) ⟨Nat.le_refl _, rfl⟩

section

variable {object : Parser Term} {room : Nat}
  (hobject : ∀ s, s.ahead.length + 1 < room → Runs ts s object fun _ after => Took 1 s after)

include hobject

/-- A pattern is complete once its object is known, because its subject and its predicate are. -/
private theorem objects_runs {subject predicate : Term} :
    ∀ bound s, s.ahead.length < bound → s.ahead.length + 1 < room →
    s.scope.current.subject = some subject → s.scope.current.predicate = some predicate →
    Runs ts s (objects object bound) fun _ after => after.ahead.length + 1 ≤ s.ahead.length ∧
      after.scope.current.subject = some subject
  | 0, _, hbound, _, _, _ => absurd hbound (Nat.not_lt_zero _)
  | bound + 1, s, hbound, hroom, hsubject, hpredicate => by
    refine (hobject s hroom).bind fun t middle hread => .collect ?_
    have hcount := hread.count
    have hcurrent : (middle.scope.setObject t).current = ⟨some subject, some predicate, some t⟩ := by
      simp only [Scope.setObject, hread.current, hsubject, hpredicate]
    refine (collectPattern_runs hcurrent).bind fun _ after hcollected => ?_
    have hcount' : after.ahead.length ≤ middle.ahead.length := hcollected.count
    have hafter : after.scope.current = ⟨some subject, some predicate, some t⟩ := hcollected.current.trans hcurrent
    refine .ifSymbol (fun hkind => .advance (by simp [hkind]) fun next htook _ => ?_) fun _ => .pure ?_
    · have hnext : next.scope.current = ⟨some subject, some predicate, some t⟩ := htook.current.trans hafter
      have hcount'' := htook.count
      refine (objects_runs bound next (by omega) (by omega) (by rw [hnext]) (by rw [hnext])).mono fun _ last hlast => ?_
      exact ⟨by omega, hlast.2⟩
    · exact ⟨by omega, by rw [hafter]⟩

private theorem objectList_runs {subject predicate : Term} {bound : Nat} {s : State} (hbound : s.ahead.length < bound)
    (hroom : s.ahead.length + 1 < room) (hsubject : s.scope.current.subject = some subject)
    (hpredicate : s.scope.current.predicate = some predicate) :
    Runs ts s (objectList object bound predicate) fun _ after => after.ahead.length ≤ s.ahead.length ∧
      after.scope.current.subject = some subject := by
  refine .token (.ite (fun _ => ?_) fun _ => .ite (fun _ => .collect ?_) fun _ => .token (.fail ⟨nofun, nofun⟩))
  · refine (objects_runs hobject bound s hbound hroom hsubject hpredicate).mono fun _ after hafter => ?_
    exact ⟨by omega, hafter.2⟩
  · have hcurrent : (s.scope.setObject .filler).current = ⟨some subject, some predicate, some .filler⟩ := by
      simp only [Scope.setObject, hsubject, hpredicate]
    refine (collectPattern_runs hcurrent).mono fun _ after hafter => ⟨hafter.count, ?_⟩
    rw [hafter.current, hcurrent]

private theorem propertyList_runs {subject : Term} : ∀ bound s, s.ahead.length + 1 < bound → s.ahead.length < room →
    s.scope.current.subject = some subject →
    Runs ts s (propertyList object bound) fun _ after => after.ahead.length + 1 ≤ s.ahead.length
  | 0, _, hbound, _, _ => absurd hbound (Nat.not_lt_zero _)
  | bound + 1, s, hbound, hroom, hsubject => by
    refine (verb_runs (by omega)).bind fun predicate middle hverb => .collect ?_
    have hcount := hverb.count
    have hlist : ∀ after : State, after.ahead.length = middle.ahead.length →
        after.scope.current.subject = some subject →
        after.scope.current.predicate = some predicate → Runs ts after (objectList object bound predicate) fun _ last =>
          last.ahead.length ≤ after.ahead.length ∧ last.scope.current.subject = some subject :=
      fun after hlength hs hp => objectList_runs hobject (by omega) (by omega) hs hp
    have hsubject' : (middle.scope.setPredicate predicate).current.subject = some subject := by
      simp only [Scope.setPredicate, hverb.current, hsubject]
    refine (hlist { middle with scope := middle.scope.setPredicate predicate } rfl hsubject' rfl).bind
      fun _ after hafter => ?_
    have hcount' : after.ahead.length ≤ middle.ahead.length := hafter.1
    refine .ifSymbol (fun _ => skipSemicolons_runs.bind fun _ next htook => ?_) fun _ => .pure (by omega)
    have hcount'' := htook.count
    refine .token (.ite (fun _ => ?_) fun _ => .pure (by omega))
    have hsubject'' : next.scope.current.subject = some subject := by rw [htook.current, hafter.2]
    exact (propertyList_runs bound next (by omega) (by omega) hsubject'').mono fun _ last hlast => by omega

private theorem blankNode_runs {bound : Nat} {s : State} (hbound : s.ahead.length < bound)
    (hroom : s.ahead.length ≤ room) : Runs ts s (blankNode object bound) fun _ after => Took 1 s after := by
  refine (expectSymbol_runs _).bind fun _ opened hopened => freshVariable_runs.bind fun node middle hfresh => ?_
  have htook : Took 1 s middle := hopened.trans hfresh (by omega)
  have hcount := htook.count
  refine Runs.bind (Q := fun _ after => after.ahead.length + 1 ≤ middle.ahead.length ∧
    after.scope.current = middle.scope.current) (Runs.nested (Q := fun _ n => n + 1 ≤ middle.ahead.length) ?_) ?_
  · refine .collect (.token (.ite (fun _ => .fail_bind ⟨nofun, nofun⟩) fun _ => ?_))
    exact propertyList_runs hobject bound _ (by dsimp only; omega) (by dsimp only; omega) rfl
  · rintro _ after ⟨hcount', hcurrent⟩
    have hinside : Took 1 middle after := ⟨hcount', hcurrent⟩
    refine (expectSymbol_runs _).bind fun _ _ hclosed => .pure ?_
    exact htook.trans (hinside.trans hclosed (Nat.zero_le _)) (by omega)

private theorem items_runs (opening : Token) : ∀ bound s, s.ahead.length < bound → s.ahead.length + 1 < room →
    Runs ts s (items object opening bound) fun _ after => Took 1 s after
  | 0, _, hbound, _ => absurd hbound (Nat.not_lt_zero _)
  | bound + 1, s, hbound, hroom => by
    refine .token (.ite (fun hkind => ?_) fun _ => .ite (fun _ => .failAt ⟨nofun, nofun⟩) fun _ => ?_)
    · exact .advance (by simp [hkind]) fun _ htook _ => .pure htook
    · refine (hobject s hroom).bind fun item middle hitem => ?_
      have hcount := hitem.count
      refine (items_runs opening bound middle (by omega) (by omega)).bind fun _ _ hrest => .pure ?_
      exact hitem.trans hrest (by omega)

private theorem collection_runs {bound : Nat} {s : State} (hbound : s.ahead.length ≤ bound)
    (hroom : s.ahead.length < room) : Runs ts s (collection object bound) fun _ after => Took 1 s after := by
  refine (expectSymbol_runs _).bind fun opening middle hopened => ?_
  have hcount := hopened.count
  refine (items_runs hobject opening bound middle (by omega) (by omega)).bind fun terms after hitems => ?_
  have htook : Took 1 s after := hopened.trans hitems (by omega)
  refine .step (freshNodes_apply terms after) (fun hs => ⟨hs.ahead, hs.last, hs.signs⟩) ?_
  cases terms with
  | nil => exact .pure ⟨htook.count, htook.current⟩
  | cons first others =>
    obtain ⟨current, hlinks⟩ := linkNodes_apply (first :: others) after.anonymous
      { after with
        anonymous := after.anonymous + (first :: others).length
        scope := { after.scope with current := {} } }
    simp only [madeUps, List.length_cons, List.range'_succ, List.map_cons] at hlinks ⊢
    refine Runs.bind (Q := fun _ last => last.ahead.length ≤ after.ahead.length ∧
      last.scope.current = after.scope.current)
      (Runs.nested (Q := fun _ n => n ≤ after.ahead.length) ?_) fun _ last hlast => .pure ?_
    · exact .of_ok hlinks (fun hs => ⟨hs.ahead, hs.last, hs.signs⟩) (Nat.le_refl _)
    · have hlinked : Took 0 after last := ⟨hlast.1, hlast.2⟩
      exact htook.trans hlinked (by omega)

end

private theorem graphNode_runs (role : Role) {s : State} :
    Runs ts s (graphNode role) fun _ after => Took 1 s after := by
  refine .ifSymbol (fun hkind => .advance (by simp [hkind]) fun _ htook _ => ?_) fun _ => simpleTerm_runs role
  refine (expectSymbol_runs _).bind fun _ _ hclosed => freshVariable_runs.mono fun _ _ hfresh => ?_
  exact htook.trans (hclosed.trans hfresh (Nat.zero_le _)) (by omega)

private theorem object_runs :
    ∀ bound s, s.ahead.length + 1 < bound → Runs ts s (object bound) fun _ after => Took 1 s after
  | 0, _, h => absurd h (Nat.not_lt_zero _)
  | bound + 1, s, h => by
    have hobject : ∀ s, s.ahead.length + 1 < bound → Runs ts s (object bound) fun _ after => Took 1 s after :=
      object_runs bound
    refine .step (atBlankNode_apply s) id (.ite (fun _ => ?_) fun _ => .ifSymbol (fun _ => ?_) fun _ => ?_)
    · exact blankNode_runs hobject (by omega) (by omega)
    · exact collection_runs hobject (by omega) (by omega)
    · exact graphNode_runs .object

private theorem triplesRest_runs {bound : Nat} (isBlank isCollection : Bool) (subject : Term) {s : State}
    (h : s.ahead.length + 1 < bound) :
    Runs ts s (triplesRest bound isBlank isCollection subject) fun _ after => after.ahead.length ≤ s.ahead.length := by
  refine .collect (.token (.ite (fun _ => ?_) fun _ => ?_))
  · refine (propertyList_runs (object_runs bound) bound _ (by dsimp only; omega) (by dsimp only; omega) rfl).mono
      fun _ after hafter => ?_
    have hcount : after.ahead.length + 1 ≤ s.ahead.length := hafter
    omega
  · exact .ite (fun _ => .token (.fail ⟨nofun, nofun⟩)) fun _ => .pure (Nat.le_refl _)

private theorem triples_runs {bound : Nat} {s : State} (h : s.ahead.length < bound) :
    Runs ts s (triples bound) fun _ after => after.ahead.length + 1 ≤ s.ahead.length := by
  have hobject : ∀ s, s.ahead.length + 1 < bound → Runs ts s (object bound) fun _ after => Took 1 s after :=
    object_runs bound
  have hrest : ∀ (isBlank isCollection : Bool) (subject : Term) (middle : State), Took 1 s middle →
      Runs ts middle (triplesRest bound isBlank isCollection subject) fun _ after =>
        after.ahead.length + 1 ≤ s.ahead.length := by
    intro isBlank isCollection subject middle htook
    have hcount := htook.count
    exact (triplesRest_runs isBlank isCollection subject (by omega)).mono fun _ after hafter => by omega
  rw [triples_eq]
  refine .step (atBlankNode_apply s) id (.step (atSymbol_apply _ s) id ?_)
  refine .ite (fun _ => ?_) fun _ => .ite (fun _ => ?_) fun _ => ?_
  · exact (blankNode_runs hobject h (by omega)).bind fun _ _ htook => hrest _ _ _ _ htook
  · exact (collection_runs hobject (by omega) h).bind fun _ _ htook => hrest _ _ _ _ htook
  · exact (graphNode_runs .subject).bind fun _ _ htook => hrest _ _ _ _ htook

/-! ### Groups -/

section

variable {s : State}

private theorem constraintRest_runs : Runs ts s constraintRest fun _ after => after.ahead.length ≤ s.ahead.length := by
  refine .ifKeyword (fun hkind => .advance (by simp [hkind]) fun _ htook _ => ?_) ?_
  · have hcount := htook.count
    exact (skipBracket_runs rfl .missingGroup ⟨nofun, nofun⟩).mono fun _ _ htook' => by have := htook'.count; omega
  · refine .token (.get (.ite (fun hcall => ?_) fun _ => .fail ⟨nofun, nofun⟩))
    -- The token after the name is the parenthesis, so the brackets that are skipped start there.
    obtain ⟨hname, hparen⟩ := Bool.and_eq_true_iff.1 hcall
    have hend : s.token.kind ≠ .eof := by
      intro hend
      simp [Token.isFunctionName, hend] at hname
    refine .advance hend fun after htook hnext => ?_
    have hcount := htook.count
    refine (skipBrackets_runs ?_).mono fun _ _ htook' => by have := htook'.count; omega
    rw [hnext, Token.closing?, of_decide_eq_true hparen]
    rfl

private theorem constraint_runs : Runs ts s constraint fun _ after => after.ahead.length ≤ s.ahead.length := by
  rw [constraint_eq]
  refine .ifSymbol (fun hkind => (skipBrackets_runs (by rw [Token.closing?, hkind]; rfl)).mono fun _ _ htook => ?_)
    fun _ => ?_
  · have := htook.count
    omega
  · refine .ifKeyword (fun hkind => .advance (by simp [hkind]) fun _ htook _ => ?_) constraintRest_runs
    refine (expectKeyword_runs _).bind fun _ _ htook' => constraintRest_runs.mono fun _ _ hafter => ?_
    have hcount := (htook.trans htook' (Nat.zero_le _)).count
    omega

private theorem values_runs : Runs ts s values fun _ after => after.ahead.length ≤ s.ahead.length := by
  have hrest : ∀ middle, Took 1 s middle →
      Runs ts middle (skipBracket .openBrace .missingValues) fun _ after => after.ahead.length ≤ s.ahead.length := by
    intro middle htook
    refine (skipBracket_runs rfl .missingValues ⟨nofun, nofun⟩).mono fun _ _ htook' => ?_
    have := (htook.trans htook' (Nat.zero_le _)).count
    omega
  refine .token (.ite (fun hkind => .advance (by simp [hkind]) fun _ htook _ => hrest _ htook) fun _ => ?_)
  exact (skipBracket_runs rfl .missingVariables ⟨nofun, nofun⟩).bind fun _ _ htook => hrest _ htook

section

variable {group : Parser Unit} {room : Nat}
  (hgroup : ∀ s, s.ahead.length + 1 < room → Runs ts s group fun _ after => after.ahead.length + 1 ≤ s.ahead.length)

include hgroup

private theorem namedGroup_runs (keyword : String) (h : s.ahead.length + 1 < room) :
    Runs ts s (namedGroup group keyword) fun _ after => after.ahead.length ≤ s.ahead.length := by
  have hnamed : ∀ middle, Took 0 s middle → Runs ts middle (do let _ ← simpleTerm .subject; group) fun _ after =>
      after.ahead.length ≤ s.ahead.length := by
    intro middle htook
    refine (simpleTerm_runs _).bind fun _ after htook' => ?_
    have hcount := (htook.trans htook' (Nat.zero_le _)).count
    exact (hgroup after (by omega)).mono fun _ last hlast => by omega
  unfold namedGroup
  refine .ite (fun _ => (skipKeyword_runs _).bind fun _ middle htook => .token ?_) fun _ => .token ?_
  · split
    · exact hnamed middle htook
    · exact hnamed middle htook
    · exact hnamed middle htook
    · exact .fail ⟨nofun, nofun⟩
  · split
    · exact hnamed s (Took.refl s)
    · exact hnamed s (Took.refl s)
    · exact hnamed s (Took.refl s)
    · exact .fail ⟨nofun, nofun⟩

private theorem element_runs (hkind : s.token.kind ≠ .eof) (h : s.ahead.length + 1 < room) :
    Runs ts s (element group) fun _ after => after.ahead.length + 1 ≤ s.ahead.length := by
  refine .advance hkind fun middle htook _ => ?_
  have hcount := htook.count
  refine .ite (fun _ => ?_) fun _ => .ite (fun _ => ?_) fun _ => .ite (fun _ => ?_) fun _ => .ite (fun _ => ?_)
    fun _ => ?_
  · exact (hgroup middle (by omega)).mono fun _ after hafter => by omega
  · exact (namedGroup_runs hgroup _ (by omega)).mono fun _ after hafter => by omega
  · exact constraint_runs.mono fun _ after hafter => by omega
  · exact (skipBracket_runs rfl .missingBinding ⟨nofun, nofun⟩).mono fun _ _ htook' => by have := htook'.count; omega
  · exact values_runs.mono fun _ after hafter => by omega

private theorem unions_runs : ∀ bound s, s.ahead.length < bound → s.ahead.length + 1 < room →
    Runs ts s (unions group bound) fun _ after => after.ahead.length ≤ s.ahead.length
  | 0, _, hbound, _ => absurd hbound (Nat.not_lt_zero _)
  | bound + 1, s, hbound, hroom => by
    refine .ifKeyword (fun hkind => .advance (by simp [hkind]) fun middle htook _ => ?_) (.pure (Nat.le_refl _))
    have hcount := htook.count
    refine (hgroup middle (by omega)).bind fun _ after hafter => ?_
    exact (unions_runs bound after (by omega) (by omega)).mono fun _ last hlast => by omega

private theorem elements_runs (opening : Token) : ∀ bound s, s.ahead.length + 1 < bound → s.ahead.length + 1 < room →
    Runs ts s (elements group opening bound) fun _ after => after.ahead.length + 1 ≤ s.ahead.length
  | 0, _, hbound, _ => absurd hbound (Nat.not_lt_zero _)
  | bound + 1, s, hbound, hroom => by
    -- Every element takes a token, so the bound of the others is not met.
    have hrest : ∀ middle : State, middle.ahead.length + 1 ≤ s.ahead.length →
        Runs ts middle (elements group opening bound) fun _ after => after.ahead.length + 1 ≤ s.ahead.length :=
      fun middle hcount => (elements_runs opening bound middle (by omega) (by omega)).mono fun _ last hlast => by omega
    refine .token ?_
    split
    next hkind => exact .advance (by simp [hkind]) fun _ htook _ => .pure htook.count
    · exact .failAt ⟨nofun, nofun⟩
    next hkind => exact .advance (by simp [hkind]) fun middle htook _ => hrest middle htook.count
    · refine (hgroup s hroom).bind fun _ middle hmiddle => ?_
      refine (unions_runs hgroup bound middle (by omega) (by omega)).bind fun _ after hafter => ?_
      exact hrest after (by omega)
    · refine .ite (fun hword => ?_) fun _ => ?_
      · have hkind := Token.isKeyword_kind hword
        exact (element_runs hgroup (by simp [hkind]) hroom).bind fun _ middle hmiddle => hrest middle hmiddle
      · refine (triples_runs (by omega)).bind fun _ middle hmiddle => .token ?_
        exact .ite (fun _ => .token (.fail_bind ⟨nofun, nofun⟩)) fun _ => hrest middle hmiddle

end

private theorem group_runs : ∀ bound s, s.ahead.length + 1 < bound →
    Runs ts s (group bound) fun _ after => after.ahead.length + 1 ≤ s.ahead.length
  | 0, _, h => absurd h (Nat.not_lt_zero _)
  | bound + 1, s, h => by
    refine (expectSymbol_runs _).bind fun opening middle htook => ?_
    have hcount := htook.count
    refine .ifKeyword (fun _ => .fail_bind ⟨nofun, nofun⟩) ?_
    exact (elements_runs (group_runs bound) opening bound middle (by omega) (by omega)).mono
      fun _ last hlast => by omega

/-! ### Whole queries -/

private theorem prologue_runs : ∀ bound s, s.ahead.length < bound →
    Runs ts s (prologue bound) fun _ after => after.ahead.length ≤ s.ahead.length
  | 0, _, h => absurd h (Nat.not_lt_zero _)
  | bound + 1, s, h => by
    -- Whatever is declared, the declarations after it have fewer tokens.
    have hdeclare : ∀ (middle : State) (change : String → Scope → Scope), Took 1 s middle →
        Runs ts middle (prologueRest change bound) fun _ after => after.ahead.length ≤ s.ahead.length := by
      intro middle change htook
      refine (expectIri_runs _).bind fun iri after htook' => .collect ?_
      have hcount : after.ahead.length + 2 ≤ s.ahead.length := (htook.trans htook' (Nat.le_refl 2)).count
      exact (prologue_runs bound { after with scope := change iri after.scope } (by dsimp only; omega)).mono
        fun _ last hlast => by dsimp only at hlast; omega
    refine .ifKeyword (fun hkind => .advance (by simp [hkind]) fun middle htook _ => ?_) ?_
    · exact hdeclare middle Scope.setBase htook
    · refine .ifKeyword (fun hkind => .advance (by simp [hkind]) fun middle htook _ => ?_) (.pure (Nat.le_refl _))
      refine (expect_runs .prefixedName _ nofun).bind fun t after htook' => ?_
      have htook'' : Took 1 s after := htook.trans htook'.1 (by omega)
      exact .ite (fun _ => .failAt_bind ⟨nofun, nofun⟩) fun _ => hdeclare after _ htook''

private theorem projections_runs : ∀ bound s, s.ahead.length < bound →
    Runs ts s (projections bound) fun _ after => after.ahead.length ≤ s.ahead.length
  | 0, _, h => absurd h (Nat.not_lt_zero _)
  | bound + 1, s, h => by
    have hrest : ∀ middle, Took 1 s middle → Runs ts middle (do return (← projections bound) + 1) fun _ after =>
        after.ahead.length ≤ s.ahead.length := by
      intro middle htook
      have hcount := htook.count
      exact (projections_runs bound middle (by omega)).bind fun _ _ hafter => .pure (by omega)
    refine .token ?_
    split
    next hkind => exact .advance (by simp [hkind]) fun _ htook _ => hrest _ htook
    next hkind => exact (skipBrackets_runs (by rw [Token.closing?, hkind]; rfl)).bind fun _ _ htook => hrest _ htook
    · exact .pure (Nat.le_refl _)

private theorem selectClause_runs {bound : Nat} (h : s.ahead.length < bound) :
    Runs ts s (selectClause bound) fun _ after => after.ahead.length ≤ s.ahead.length := by
  refine (expectKeyword_runs _).bind fun _ _ htook => (skipKeyword_runs _).bind fun _ middle htook' => ?_
  have hcount := (htook.trans htook' (Nat.zero_le _)).count
  refine .ifSymbol (fun hkind => .advance (by simp [hkind]) fun _ htook'' _ => .pure ?_) fun _ => ?_
  · have := htook''.count
    omega
  · refine (projections_runs bound middle (by omega)).bind fun _ _ hafter => ?_
    exact .ite (fun _ => .fail ⟨nofun, nofun⟩) fun _ => .pure (by omega)

private theorem datasets_runs : ∀ bound s, s.ahead.length < bound →
    Runs ts s (datasets bound) fun _ after => after.ahead.length ≤ s.ahead.length
  | 0, _, h => absurd h (Nat.not_lt_zero _)
  | bound + 1, s, h => by
    have hrest : ∀ middle, Took 1 s middle → Runs ts middle (datasets bound) fun _ after =>
        after.ahead.length ≤ s.ahead.length := by
      intro middle htook
      have hcount := htook.count
      exact (datasets_runs bound middle (by omega)).mono fun _ _ hafter => by omega
    refine .ifKeyword (fun hkind => .advance (by simp [hkind]) fun _ htook _ => ?_) (.pure (Nat.le_refl _))
    refine (skipKeyword_runs _).bind fun _ middle htook' => .token ?_
    have htook'' : Took 1 s middle := htook.trans htook' (by omega)
    refine .ite (fun hkind => .advance (by simp [hkind]) fun _ hname _ => ?_) fun _ => ?_
    · refine (resolveName_runs _).bind fun _ _ hresolved => hrest _ ?_
      exact htook''.trans (hname.trans hresolved (Nat.zero_le _)) (by omega)
    · exact (expectIri_runs _).bind fun _ _ hiri => hrest _ (htook''.trans hiri (by omega))

private theorem skipCondition_runs : ∀ bound s, s.ahead.length < bound →
    Runs ts s (skipCondition bound) fun _ after => after.ahead.length ≤ s.ahead.length
  | 0, _, h => absurd h (Nat.not_lt_zero _)
  | bound + 1, s, h => by
    have hrest : ∀ middle, Took 1 s middle → Runs ts middle (do return (← skipCondition bound) + 1) fun _ after =>
        after.ahead.length ≤ s.ahead.length := by
      intro middle htook
      have hcount := htook.count
      exact (skipCondition_runs bound middle (by omega)).bind fun _ _ hafter => .pure (by omega)
    refine .token (.ite (fun _ => .pure (Nat.le_refl _)) fun hinside => ?_)
    have hkind : s.token.kind ≠ .eof := fun hkind => hinside (by simp [hkind])
    refine .ite (fun hopens => (skipBrackets_runs hopens).bind fun _ _ htook => hrest _ htook) fun _ => ?_
    exact .advance hkind fun _ htook _ => hrest _ htook

private theorem condition_runs {bound : Nat} (h : s.ahead.length < bound) :
    Runs ts s (condition bound) fun _ after => after.ahead.length ≤ s.ahead.length :=
  (skipCondition_runs bound s h).bind fun _ _ hafter => .ite (fun _ => .fail ⟨nofun, nofun⟩) fun _ => .pure hafter

private theorem modifiers_runs : ∀ bound s, s.ahead.length < bound →
    Runs ts s (modifiers bound) fun _ after => after.ahead.length ≤ s.ahead.length
  | 0, _, h => absurd h (Nat.not_lt_zero _)
  | bound + 1, s, h => by
    have hrest : ∀ middle : State, middle.ahead.length + 1 ≤ s.ahead.length →
        Runs ts middle (modifiers bound) fun _ after => after.ahead.length ≤ s.ahead.length :=
      fun middle hcount => (modifiers_runs bound middle (by omega)).mono fun _ _ hafter => by omega
    have hcondition : ∀ middle, Took 1 s middle → Runs ts middle (do condition bound; modifiers bound) fun _ after =>
        after.ahead.length ≤ s.ahead.length := by
      intro middle htook
      have hcount := htook.count
      exact (condition_runs (by omega)).bind fun _ after hafter => hrest after (by omega)
    refine .token (.ite (fun _ => .pure (Nat.le_refl _)) fun hkind => ?_)
    refine .ite (fun _ => .advance hkind fun _ htook _ => ?_)
      fun _ => .ite (fun _ => .advance hkind fun _ htook _ => ?_) fun _ =>
      .ite (fun _ => .advance hkind fun _ htook _ => hcondition _ htook) fun _ => .fail_bind ⟨nofun, nofun⟩
    · exact (expect_runs .integer _ nofun).bind fun _ _ htook' => hrest _ (htook.trans htook'.1 (by omega)).count
    · exact (expectKeyword_runs _).bind fun _ _ htook' => hcondition _ (htook.trans htook' (by omega))

private theorem query_runs {bound : Nat} (h : s.ahead.length + 1 < bound) :
    Runs ts s (query bound) fun _ _ => True := by
  refine (prologue_runs bound s (by omega)).bind fun _ declared hdeclared => ?_
  refine (selectClause_runs (by omega)).bind fun _ selected hselected => ?_
  refine (datasets_runs bound selected (by omega)).bind fun _ placed hplaced => ?_
  refine (skipKeyword_runs _).bind fun _ opened hopened => ?_
  have hcount := hopened.count
  refine (group_runs bound opened (by omega)).bind fun _ closed hclosed => ?_
  refine (modifiers_runs bound closed (by omega)).bind fun _ last _ => ?_
  refine Runs.bind (Q := fun _ _ => True) ?_ fun _ _ _ => .pure trivial
  refine .token (.ite (fun _ => ?_) fun _ => .token (.fail ⟨nofun, nofun⟩))
  exact .of_ok (advance_apply last) (fun hs => hs.skip (List.tail_suffix _)) trivial

end

/-- The parser stops only with faults of the query and with the escapes of its quoted texts. -/
theorem parseTokens_stops {length : Nat} (scope : Scope) (ts : List Token)
    (hsigns : ∀ t ∈ ts, t.kind = .symbol .plus ∨ t.kind = .symbol .minus → t.text ≠ "") {e : Error}
    (h : (parseTokens scope ts length).1 = .error e) : Stops ts e := by
  have hplaced : Placed ts { ahead := ts, last := .eof length, scope } := ⟨fun _ => id, rfl, hsigns⟩
  have hrun := (query_runs (Nat.lt_succ_self (ts.length + 1))).run hplaced
  unfold parseTokens at h
  split at hrun
  next a after hok => simp [hok] at h
  next e' after herror =>
    rw [herror] at h
    cases h
    exact hrun

end PointOfFocus.Query
