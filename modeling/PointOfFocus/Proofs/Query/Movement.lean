import PointOfFocus.Proofs.Query.Quiet
import PointOfFocus.Proofs.Query.Triples

/-!
# How the parser moves through the tokens

The parser only ever goes forward, and it never goes beyond the end. Its productions are written with a bound on how
deeply they nest and how often they repeat, but every level of nesting and every item of a list takes a token of its
own. So a bound above the number of tokens that are left is not met, and two such bounds make no difference.

A production is therefore described together with itself under another bound. `Proceeds` says that both do the same,
that the tokens left at the end are among the last of those left at the start, also where the production stops, and that
a fault lies at one of the tokens. What a production does to the scope plays no part: a pattern that lacks a part is a
fault without a place.
-/

namespace PointOfFocus.Query

open PointOfFocus.Rdf
open PointOfFocus.Text

/-- The tokens that are left and the one for the end are among the given ones. -/
structure Within (ts : List Token) (s : State) : Prop where
  ahead : ∀ t ∈ s.ahead, t ∈ ts
  mem_last : s.last ∈ ts
  last : s.last.kind = .eof

/-- The tokens that are left are the last of those that were left before. -/
structure Moved (s after : State) : Prop where
  ahead : after.ahead <:+ s.ahead
  last : after.last = s.last

/-- At least so many tokens were taken. -/
abbrev Uses (k : Nat) (s after : State) : Prop := after.ahead.length + k ≤ s.ahead.length

/-- A fault with a place is at one of the tokens, and it is not the bound that was met. -/
def StopsAt (ts : List Token) : Error → Prop
  | .at offset cause => cause ≠ .tooDeep ∧ ∃ t ∈ ts, offset = t.start
  | _ => True

/-- What was read and the state after it are as said, or the fault has its place. -/
def Arrives {α : Type} (ts : List Token) (Q : α → State → Prop) : Except Error α × State → Prop
  | (.ok a, after) => Q a after
  | (.error e, _) => StopsAt ts e

/-- From the state the two steps do the same: they move forward, and they arrive as said. -/
structure Proceeds {α : Type} (ts : List Token) (s : State) (m m' : Parser α) (Q : α → State → Prop) : Prop where
  run : Within ts s → m' s = m s ∧ Moved s (m s).2 ∧ Arrives ts Q (m s)

private theorem Moved.refl (s : State) : Moved s s := ⟨List.suffix_refl _, rfl⟩

private theorem Moved.trans {s middle after : State} (h : Moved s middle) (h' : Moved middle after) : Moved s after :=
  ⟨h'.ahead.trans h.ahead, h'.last.trans h.last⟩

private theorem Moved.skip (s : State) {ahead : List Token} (h : ahead <:+ s.ahead) : Moved s { s with ahead } :=
  ⟨h, rfl⟩

variable {ts : List Token}

private theorem Within.moved {s after : State} (h : Within ts s) (h' : Moved s after) : Within ts after :=
  ⟨fun t ht => h.ahead t (h'.ahead.subset ht), h'.last ▸ h.mem_last, h'.last ▸ h.last⟩

private theorem Within.mem {s : State} (h : Within ts s) : s.token ∈ ts := by
  unfold State.token
  cases hahead : s.ahead with
  | nil => exact h.mem_last
  | cons t rest => exact h.ahead t (by simp [hahead])

/-- So many tokens can be taken at once: one, unless the end is at hand. -/
def State.Offers (k : Nat) (s : State) : Prop := k = 0 ∨ k = 1 ∧ s.token.kind ≠ .eof

private theorem State.offers_one {s : State} (h : s.token.kind ≠ .eof) : s.Offers 1 := .inr ⟨rfl, h⟩

private theorem State.Offers.uses {k : Nat} {s : State} (h : s.Offers k) (hs : Within ts s) :
    Uses k s { s with ahead := s.ahead.tail } := by
  rcases h with rfl | ⟨rfl, hkind⟩
  · exact (List.tail_suffix s.ahead).length_le
  · cases hahead : s.ahead with
    | nil => simp [State.token, hahead, hs.last] at hkind
    | cons t rest => simp [hahead]

section

variable {α β : Type} {s : State} {Q R : α → State → Prop} {Q' : β → State → Prop}

private theorem Proceeds.bind {m m' : Parser α} {f f' : α → Parser β} (hm : Proceeds ts s m m' Q)
    (hf : ∀ a middle, Q a middle → Proceeds ts middle (f a) (f' a) Q') : Proceeds ts s (m >>= f) (m' >>= f') Q' := by
  constructor
  intro hs
  obtain ⟨hsame, hmoved, harrives⟩ := hm.run hs
  rw [bind_apply, bind_apply, hsame]
  rcases hrun : m s with ⟨e | a, middle⟩
  · rw [hrun] at hmoved harrives
    exact ⟨rfl, hmoved, harrives⟩
  · rw [hrun] at hmoved harrives
    obtain ⟨hsame', hmoved', harrives'⟩ := (hf a middle harrives).run (hs.moved hmoved)
    exact ⟨hsame', hmoved.trans hmoved', harrives'⟩

private theorem Proceeds.mono {m m' : Parser α} (hm : Proceeds ts s m m' Q) (h : ∀ a after, Q a after → R a after) :
    Proceeds ts s m m' R := by
  constructor
  intro hs
  obtain ⟨hsame, hmoved, harrives⟩ := hm.run hs
  refine ⟨hsame, hmoved, ?_⟩
  rcases hrun : m s with ⟨e | a, after⟩
  · rw [hrun] at harrives
    exact harrives
  · rw [hrun] at harrives
    exact h a after harrives

/-- A step of which the result is known. -/
private theorem Proceeds.of_ok {m : Parser α} {a : α} {after : State} (hm : m s = (.ok a, after))
    (hmoved : Moved s after) (h : Within ts s → Q a after) : Proceeds ts s m m Q := by
  constructor
  intro hs
  rw [hm]
  exact ⟨rfl, hmoved, h hs⟩

/-- A step that stops with a known fault. -/
private theorem Proceeds.of_error {m m' : Parser α} {e : Error} (hm : m s = (.error e, s)) (hm' : m' s = (.error e, s))
    (h : Within ts s → StopsAt ts e) : Proceeds ts s m m' Q := by
  constructor
  intro hs
  rw [hm, hm']
  exact ⟨rfl, Moved.refl s, h hs⟩

/-- A step of which the result is known, and what is done after it. -/
private theorem Proceeds.step {m : Parser α} {f f' : α → Parser β} {a : α} {middle : State} (hm : m s = (.ok a, middle))
    (hmoved : Moved s middle) (hf : Proceeds ts middle (f a) (f' a) Q') : Proceeds ts s (m >>= f) (m >>= f') Q' :=
  (Proceeds.of_ok (Q := fun b after => b = a ∧ after = middle) hm hmoved fun _ => ⟨rfl, rfl⟩).bind
    fun _ _ ⟨hb, hafter⟩ => hb ▸ hafter ▸ hf

private theorem Proceeds.within {m m' : Parser α} (h : Within ts s → Proceeds ts s m m' Q) : Proceeds ts s m m' Q :=
  ⟨fun hs => (h hs).run hs⟩

private theorem Proceeds.pure {a : α} (h : Q a s) : Proceeds ts s (Pure.pure a : Parser α) (Pure.pure a) Q :=
  .of_ok rfl (Moved.refl s) fun _ => h

private theorem Proceeds.failAt {t : Token} {cause : Cause} (ht : t ∈ ts) (h : cause ≠ .tooDeep) :
    Proceeds ts s (Query.failAt t cause : Parser α) (Query.failAt t cause) Q :=
  .of_error rfl rfl fun _ => ⟨h, t, ht, rfl⟩

private theorem Proceeds.fail {cause : Cause} (h : cause ≠ .tooDeep) :
    Proceeds ts s (Query.fail cause : Parser α) (Query.fail cause) Q :=
  .of_error rfl rfl fun hs => ⟨h, s.token, hs.mem, rfl⟩

private theorem Proceeds.failAt_bind {t : Token} {cause : Cause} {f f' : α → Parser β} (ht : t ∈ ts)
    (h : cause ≠ .tooDeep) : Proceeds ts s (Query.failAt t cause >>= f) (Query.failAt t cause >>= f') Q' :=
  .of_error rfl rfl fun _ => ⟨h, t, ht, rfl⟩

private theorem Proceeds.fail_bind {cause : Cause} {f f' : α → Parser β} (h : cause ≠ .tooDeep) :
    Proceeds ts s (Query.fail cause >>= f) (Query.fail cause >>= f') Q' :=
  .of_error rfl rfl fun hs => ⟨h, s.token, hs.mem, rfl⟩

private theorem Proceeds.ite {p : Prop} [Decidable p] {m m' n n' : Parser α} (hm : p → Proceeds ts s m m' Q)
    (hn : ¬p → Proceeds ts s n n' Q) : Proceeds ts s (if p then m else n) (if p then m' else n') Q := by
  by_cases hp : p
  · simpa only [hp, ↓reduceIte] using hm hp
  · simpa only [hp, ↓reduceIte] using hn hp

private theorem Proceeds.token {f f' : Token → Parser β} (h : Proceeds ts s (f s.token) (f' s.token) Q') :
    Proceeds ts s (token >>= f) (token >>= f') Q' := .step (token_apply s) (Moved.refl s) h

private theorem Proceeds.get {f f' : State → Parser β} (h : Proceeds ts s (f s) (f' s) Q') :
    Proceeds ts s (get >>= f) (get >>= f') Q' :=
  .step (get_apply s) (Moved.refl s) h

/-- Taking the token at hand. -/
private theorem Proceeds.advance {f f' : Token → Parser β} {k : Nat} (hk : s.Offers k)
    (h : ∀ middle, Uses k s middle → middle.token = s.next → Proceeds ts middle (f s.token) (f' s.token) Q') :
    Proceeds ts s (advance >>= f) (advance >>= f') Q' :=
  .within fun hs => .step (advance_apply s) (.skip s (List.tail_suffix _)) (h _ (hk.uses hs) rfl)

/-- A test for a symbol. -/
private theorem Proceeds.ifSymbol {x : Symbol} {m m' n n' : Parser β}
    (hm : s.token.kind = .symbol x → Proceeds ts s m m' Q') (hn : s.token.kind ≠ .symbol x → Proceeds ts s n n' Q') :
    Proceeds ts s (atSymbol x >>= fun found => if found then m else n)
      (atSymbol x >>= fun found => if found then m' else n') Q' :=
  .step (atSymbol_apply x s) (Moved.refl s)
    (.ite (fun h => hm (of_decide_eq_true h)) fun h => hn fun heq => h (decide_eq_true heq))

private theorem Token.kind_ne_of_isKeyword {t : Token} {words : List String} (h : t.isKeyword words = true) :
    t.kind ≠ .eof := by
  have hword : t.kind = .word := of_decide_eq_true (Bool.and_eq_true_iff.1 h).1
  simp [hword]

/-- A test for a keyword, which is not the end. -/
private theorem Proceeds.ifKeyword {words : List String} {m m' n n' : Parser β}
    (hm : s.token.kind ≠ .eof → Proceeds ts s m m' Q') (hn : Proceeds ts s n n' Q') :
    Proceeds ts s (atKeyword words >>= fun found => if found then m else n)
      (atKeyword words >>= fun found => if found then m' else n') Q' :=
  .step (atKeyword_apply words s) (Moved.refl s) (.ite (fun h => hm (Token.kind_ne_of_isKeyword h)) fun _ => hn)

private theorem Proceeds.collect {change : Scope → Scope} {f f' : Unit → Parser β}
    (h : Proceeds ts { s with scope := change s.scope } (f ()) (f' ()) Q') :
    Proceeds ts s (collect change >>= f) (collect change >>= f') Q' :=
  .step (collect_apply change s) ⟨List.suffix_refl _, rfl⟩ h

private theorem Proceeds.nested {m m' : Parser α} {n : Nat}
    (h : Proceeds ts { s with scope := { s.scope with current := {} } } m m' fun _ after => after.ahead.length ≤ n) :
    Proceeds ts s (nested m) (nested m') fun _ after => after.ahead.length ≤ n := by
  constructor
  intro hs
  obtain ⟨hsame, hmoved, harrives⟩ := h.run ⟨hs.ahead, hs.mem_last, hs.last⟩
  rw [nested_apply, nested_apply, hsame]
  refine ⟨rfl, ⟨hmoved.ahead, hmoved.last⟩, ?_⟩
  rcases hrun : m { s with scope := { s.scope with current := {} } } with ⟨e | a, after⟩
  · rw [hrun] at harrives
    exact harrives
  · rw [hrun] at harrives
    exact harrives

end

/-! ### Basic steps -/

section

variable {s : State}

private theorem advance_proceeds {k : Nat} (hk : s.Offers k) :
    Proceeds ts s advance advance fun t after => Uses k s after ∧ t ∈ ts := by
  refine .of_ok (advance_apply s) (.skip s (List.tail_suffix _)) fun hs => ?_
  exact ⟨hk.uses hs, hs.mem⟩

private theorem expect_proceeds (kind : Kind) (what : String) (h : kind ≠ .eof) :
    Proceeds ts s (expect kind what) (expect kind what) fun t after => Uses 1 s after ∧ t ∈ ts :=
  .token (.ite (fun hkind => advance_proceeds (State.offers_one (hkind ▸ h))) fun _ => .token (.fail nofun))

private theorem expectSymbol_proceeds (x : Symbol) :
    Proceeds ts s (expectSymbol x) (expectSymbol x) fun t after => Uses 1 s after ∧ t ∈ ts := expect_proceeds _ _ nofun

private theorem expectKeyword_proceeds (word : String) :
    Proceeds ts s (expectKeyword word) (expectKeyword word) fun _ after => Uses 1 s after :=
  .ifKeyword (fun hkind => (advance_proceeds (State.offers_one hkind)).mono fun _ _ h => h.1) (.token (.fail nofun))

private theorem skipKeyword_proceeds (words : List String) :
    Proceeds ts s (skipKeyword words) (skipKeyword words) fun _ after => Uses 0 s after :=
  .ifKeyword (fun hkind => .advance (State.offers_one hkind) fun _ huses _ => .pure (by omega)) (.pure (Nat.le_refl _))

private theorem freshVariable_proceeds : Proceeds ts s freshVariable freshVariable fun _ after => Uses 0 s after :=
  .of_ok (freshVariable_apply s) ⟨List.suffix_refl _, rfl⟩ fun _ => Nat.le_refl _

private theorem skipSemicolons_proceeds :
    Proceeds ts s skipSemicolons skipSemicolons fun _ after => Uses 0 s after := by
  have hsuffix : s.ahead.dropWhile (·.kind = .symbol .semicolon) <:+ s.ahead := List.dropWhile_suffix _
  exact .of_ok rfl (.skip s hsuffix) fun _ => hsuffix.length_le

/-- Brackets that are not balanced are reported at the opening one or at a closing one. -/
private theorem afterBrackets_stopsAt {opening : Token} {awaited : List Symbol} {rest left : List Token} {e : Error}
    (h : afterBrackets opening awaited rest = .error (e, left)) (hopening : opening ∈ ts) (hrest : ∀ t ∈ rest, t ∈ ts) :
    StopsAt ts e := by
  fun_induction afterBrackets opening awaited rest with
  | case1 => cases h
  | case2 => cases h; exact ⟨by simp, opening, hopening, rfl⟩
  | case3 _ _ _ _ _ _ _ _ ih => exact ih h (List.forall_mem_cons.1 hrest).2
  | case4 _ _ _ _ _ _ ih => exact ih h (List.forall_mem_cons.1 hrest).2
  | case5 => cases h; exact ⟨by simp, _, hrest _ List.mem_cons_self, rfl⟩
  | case6 _ _ _ _ _ _ _ _ _ ih => exact ih h (List.forall_mem_cons.1 hrest).2
  | case7 _ _ _ _ _ ih => exact ih h (List.forall_mem_cons.1 hrest).2

/-- Skipping brackets takes at least the opening one. -/
theorem skipBrackets_proceeds (h : s.token.closing?.isSome) :
    Proceeds ts s skipBrackets skipBrackets fun _ after => Uses 1 s after := by
  have hkind : s.token.kind ≠ .eof := by
    intro hkind
    simp [Token.closing?, hkind] at h
  refine .within fun hs => .advance (State.offers_one hkind) fun middle huses _ => .within fun hmiddle => .get ?_
  cases hrest : afterBrackets s.token s.token.closing?.toList middle.ahead with
  | error fault =>
    refine .step rfl (.skip middle (afterBrackets_fault_suffix hrest)) ?_
    exact .of_error rfl rfl fun _ => afterBrackets_stopsAt hrest hs.mem hmiddle.ahead
  | ok rest =>
    have hsuffix := afterBrackets_suffix hrest
    refine .of_ok rfl (.skip middle hsuffix) fun _ => ?_
    have hcount : rest.length ≤ middle.ahead.length := hsuffix.length_le
    show rest.length + 1 ≤ s.ahead.length
    omega

private theorem skipBracket_proceeds (x : Symbol) (cause : Cause) (hx : x.closing?.isSome) (h : cause ≠ .tooDeep) :
    Proceeds ts s (skipBracket x cause) (skipBracket x cause) fun _ after => Uses 1 s after :=
  .ifSymbol (fun hkind => skipBrackets_proceeds (by simpa [Token.closing?, hkind] using hx)) fun _ => .fail h

/-! ### Names, literals and the point of focus -/

private theorem resolve_proceeds (label : String) {t : Token} (ht : t ∈ ts) :
    Proceeds ts s (resolve label t) (resolve label t) fun _ after => Uses 0 s after := by
  refine .get ?_
  cases s.scope.prefixIri? label with
  | none => exact .failAt ht nofun
  | some iri => exact .pure (Nat.le_refl _)

private theorem resolveName_proceeds {t : Token} (ht : t ∈ ts) :
    Proceeds ts s (resolveName t) (resolveName t) fun _ after => Uses 0 s after :=
  (resolve_proceeds _ ht).bind fun _ _ huses => .pure huses

/-- Taking a prefixed name and looking up its label. -/
private theorem advance_resolveName_proceeds (h : s.token.kind ≠ .eof) :
    Proceeds ts s (do resolveName (← advance)) (do resolveName (← advance)) fun _ after => Uses 1 s after := by
  refine .within fun hs => .advance (State.offers_one h) fun middle huses _ => ?_
  exact (resolveName_proceeds hs.mem).mono fun _ after huses' => by omega

private theorem expectIri_proceeds (what : String) :
    Proceeds ts s (expectIri what) (expectIri what) fun _ after => Uses 1 s after :=
  (expect_proceeds .iri what nofun).bind fun _ _ huses => .pure huses.1

private theorem datatypeIri_proceeds : Proceeds ts s datatypeIri datatypeIri fun _ after => Uses 1 s after := by
  refine .token ?_
  split
  next hkind => exact .advance (State.offers_one (by simp [hkind])) fun _ huses _ => .pure huses
  next hkind => exact advance_resolveName_proceeds (by simp [hkind])
  · exact .fail nofun

theorem textLiteral_proceeds {k : Nat} (hk : s.Offers k) :
    Proceeds ts s textLiteral textLiteral fun _ after => Uses k s after := by
  refine .advance hk fun middle huses _ => ?_
  cases quotedText s.token.text with
  | error cause => exact .of_error rfl rfl fun _ => trivial
  | ok lexical =>
    refine .token ?_
    split
    next hkind => exact .advance (State.offers_one (by simp [hkind])) fun _ huses' _ => .pure (by omega)
    next hkind =>
      refine .advance (State.offers_one (by simp [hkind])) fun _ huses' _ => ?_
      exact datatypeIri_proceeds.bind fun _ _ huses'' => .pure (by omega)
    · exact .pure huses

private theorem unsignedNumber_proceeds (sign : String) :
    Proceeds ts s (unsignedNumber sign) (unsignedNumber sign) fun _ after => Uses 1 s after := by
  refine .token ?_
  cases htype : numberType? s.token.kind with
  | some type => exact .advance (State.offers_one (numberType?_ne_eof htype)) fun _ huses _ => .pure huses
  | none => exact .fail nofun

theorem number_proceeds : Proceeds ts s number number fun _ after => Uses 1 s after := by
  refine .step (atSymbol_apply _ s) (Moved.refl s) (.step (atSymbol_apply _ s) (Moved.refl s) ?_)
  refine .ite (fun hsign => ?_) fun _ => unsignedNumber_proceeds _
  have hkind : s.token.kind ≠ .eof := by
    rintro hkind
    simp [hkind] at hsign
  refine .advance (State.offers_one hkind) fun middle huses _ => ?_
  exact (unsignedNumber_proceeds _).mono fun _ after huses' => by omega

theorem pointOfFocus_proceeds (role : Role) {k : Nat} (hk : s.Offers k) :
    Proceeds ts s (pointOfFocus role) (pointOfFocus role) fun _ after => Uses k s after := by
  refine .within fun hs => .advance hk fun middle huses _ => .get ?_
  refine .ite (fun _ => .failAt_bind hs.mem nofun) fun _ => .step (modify_apply _ _) ⟨List.suffix_refl _, rfl⟩ ?_
  split
  · refine .ite (fun _ => .failAt_bind hs.mem nofun) fun _ => .ite (fun _ => .failAt_bind hs.mem nofun) fun _ => ?_
    exact .collect (.pure huses)
  · refine (resolve_proceeds _ hs.mem).bind fun _ after huses' => .collect (.pure ?_)
    have hcount : after.ahead.length + 0 ≤ middle.ahead.length := huses'
    show after.ahead.length + k ≤ s.ahead.length
    omega
  · exact .collect (.pure huses)
  · exact .pure huses

/-- A term takes at least one token. -/
theorem simpleTerm_proceeds (role : Role) :
    Proceeds ts s (simpleTerm role) (simpleTerm role) fun _ after => Uses 1 s after := by
  have hnumber : Proceeds ts s (do return Term.literal (← number)) (do return Term.literal (← number)) fun _ after =>
      Uses 1 s after := number_proceeds.bind fun _ _ huses => .pure huses
  refine .token ?_
  split
  next hkind => exact pointOfFocus_proceeds role (State.offers_one (by simp [hkind]))
  next hkind => exact .advance (State.offers_one (by simp [hkind])) fun _ huses _ => .pure huses
  next hkind => exact .advance (State.offers_one (by simp [hkind])) fun _ huses _ => .pure huses
  next hkind =>
    refine .within fun hs => .advance (State.offers_one (by simp [hkind])) fun _ huses _ => ?_
    exact (resolveName_proceeds hs.mem).bind fun _ _ huses' => .pure (by omega)
  next hkind => exact .advance (State.offers_one (by simp [hkind])) fun _ huses _ => .pure huses
  next hkind =>
    exact (textLiteral_proceeds (State.offers_one (by simp [hkind]))).bind fun _ _ huses => .pure huses
  · exact hnumber
  · exact hnumber
  · exact hnumber
  · exact hnumber
  · exact hnumber
  · refine .ite (fun htruth => ?_) fun _ => .fail nofun
    have hword : s.token.kind = .word := of_decide_eq_true (Bool.and_eq_true_iff.1 htruth).1
    exact .advance (State.offers_one (by simp [hword])) fun _ huses _ => .pure huses

/-! ### Verbs -/

private theorem separated_proceeds {α : Type} {x : Symbol} {item item' : Parser α} {room : Nat}
    (h : ∀ s, s.ahead.length ≤ room → Proceeds ts s item item' fun _ after => Uses 1 s after) :
    ∀ bound bound' s, s.ahead.length < bound → s.ahead.length < bound' → s.ahead.length ≤ room →
      Proceeds ts s (separated x item bound) (separated x item' bound') fun _ after => Uses 0 s after
  | 0, _, _, hbound, _, _ => absurd hbound (Nat.not_lt_zero _)
  | _, 0, _, _, hbound', _ => absurd hbound' (Nat.not_lt_zero _)
  | bound + 1, bound' + 1, s, hbound, hbound', hroom => by
    refine .ifSymbol (fun hkind => ?_) fun _ => .pure (Nat.le_refl _)
    refine .advance (State.offers_one (by simp [hkind])) fun middle huses _ => ?_
    refine (h middle (by omega)).bind fun _ after hitem => ?_
    exact (separated_proceeds h bound bound' after (by omega) (by omega) (by omega)).bind
      fun _ _ hrest => .pure (by omega)

section

variable {inner inner' : Parser Term} {room : Nat}
  (hinner : ∀ s, s.ahead.length < room → Proceeds ts s inner inner' fun _ after => Uses 1 s after)

include hinner

theorem pathPrimary_proceeds (h : s.ahead.length ≤ room) :
    Proceeds ts s (pathPrimary inner) (pathPrimary inner') fun _ after => Uses 1 s after := by
  refine .token ?_
  split
  next hkind => exact .advance (State.offers_one (by simp [hkind])) fun _ huses _ => .pure huses
  next hkind =>
    refine .within fun hs => .advance (State.offers_one (by simp [hkind])) fun _ huses _ => ?_
    exact (resolveName_proceeds hs.mem).bind fun _ _ huses' => .pure (by omega)
  next hkind =>
    refine .advance (State.offers_one (by simp [hkind])) fun middle huses _ => ?_
    refine (hinner middle (by omega)).bind fun _ _ hpath => ?_
    exact (expectSymbol_proceeds _).bind fun _ _ hclosed => .pure (by omega)
  · exact .fail nofun
  · refine .ite (fun hword => ?_) fun _ => .fail nofun
    have hkind : s.token.kind = .word := of_decide_eq_true (Bool.and_eq_true_iff.1 hword).1
    exact .advance (State.offers_one (by simp [hkind])) fun _ huses _ => .pure huses

private theorem pathStepRest_proceeds (inverse : Bool) (h : s.ahead.length ≤ room) :
    Proceeds ts s (pathStepRest inner inverse) (pathStepRest inner' inverse) fun _ after => Uses 1 s after := by
  refine (pathPrimary_proceeds hinner h).bind fun _ _ hpath => .token ?_
  exact .ite (fun _ => .fail_bind nofun) fun _ => .pure hpath

theorem pathStep_proceeds (h : s.ahead.length ≤ room) :
    Proceeds ts s (pathStep inner) (pathStep inner') fun _ after => Uses 1 s after := by
  rw [pathStep_eq, pathStep_eq]
  refine .step (atSymbol_apply _ s) (Moved.refl s) (.ite (fun hcaret => ?_) fun _ => pathStepRest_proceeds hinner _ h)
  have hkind : s.token.kind = .symbol .caret := of_decide_eq_true hcaret
  refine .advance (State.offers_one (by simp [hkind])) fun middle huses _ => ?_
  exact (pathStepRest_proceeds hinner _ (by omega)).mono fun _ after huses' => by omega

theorem pathSequence_proceeds {bound bound' : Nat} (h : s.ahead.length ≤ room) (hbound : s.ahead.length ≤ bound)
    (hbound' : s.ahead.length ≤ bound') :
    Proceeds ts s (pathSequence bound inner) (pathSequence bound' inner') fun _ after => Uses 1 s after := by
  refine (pathStep_proceeds hinner h).bind fun first middle hfirst => ?_
  refine (separated_proceeds (fun _ => pathStep_proceeds hinner) bound bound' middle (by omega) (by omega)
    (by omega)).bind fun rest _ hrest => ?_
  cases rest with
  | nil => exact .pure (by omega)
  | cons second rest => exact .pure (by omega)

end

/-- A path takes at least one token, and the bound on its nesting does not show. -/
theorem path_proceeds : ∀ bound bound' s, s.ahead.length < bound → s.ahead.length < bound' →
    Proceeds ts s (path bound) (path bound') fun _ after => Uses 1 s after
  | 0, _, _, h, _ => absurd h (Nat.not_lt_zero _)
  | _, 0, _, _, h' => absurd h' (Nat.not_lt_zero _)
  | bound + 1, bound' + 1, s, h, h' => by
    have hinner : ∀ s, s.ahead.length < min bound bound' →
        Proceeds ts s (path bound) (path bound') fun _ after => Uses 1 s after :=
      fun s hs => path_proceeds bound bound' s (by omega) (by omega)
    have hitem : ∀ s, s.ahead.length ≤ min bound bound' → Proceeds ts s (pathSequence bound (path bound))
        (pathSequence bound' (path bound')) fun _ after => Uses 1 s after :=
      fun _ hs => pathSequence_proceeds hinner hs (by omega) (by omega)
    refine (hitem s (by omega)).bind fun first middle hfirst => ?_
    refine (separated_proceeds hitem bound bound' middle (by omega) (by omega) (by omega)).bind fun rest _ hrest => ?_
    cases rest with
    | nil => exact .pure (by omega)
    | cons second rest => exact .pure (by omega)

/-- A verb takes at least one token. -/
theorem verb_proceeds {bound bound' : Nat} (h : s.ahead.length < bound) (h' : s.ahead.length < bound') :
    Proceeds ts s (verb bound) (verb bound') fun _ after => Uses 1 s after := by
  refine .token ?_
  split
  next hkind => exact pointOfFocus_proceeds _ (State.offers_one (by simp [hkind]))
  next hkind => exact .advance (State.offers_one (by simp [hkind])) fun _ huses _ => .pure huses
  · exact path_proceeds bound bound' s h h'

end

/-! ### Triples -/

private theorem collectPattern_proceeds {s : State} :
    Proceeds ts s collectPattern collectPattern fun _ after => Uses 0 s after := by
  refine .get ?_
  cases s.scope.addPattern with
  | ok scope => exact .of_ok (collect_apply _ s) ⟨List.suffix_refl _, rfl⟩ fun _ => Nat.le_refl _
  | error _ => exact .of_error rfl rfl fun _ => trivial

private theorem freshNodes_proceeds {s : State} (terms : List Term) :
    Proceeds ts s (freshNodes terms) (freshNodes terms) fun _ after => Uses 0 s after :=
  .of_ok (freshNodes_apply terms s) ⟨List.suffix_refl _, rfl⟩ fun _ => Nat.le_refl _

private theorem link_proceeds {s : State} (subject : Term) (predicate : String) (value : Term) :
    Proceeds ts s (link subject predicate value) (link subject predicate value) fun _ after => Uses 0 s after :=
  .collect (.collect (.collect collectPattern_proceeds))

private theorem linkNodes_proceeds : ∀ (nodes : List (Term × Term)) (s : State),
    Proceeds ts s (linkNodes nodes) (linkNodes nodes) fun _ after => Uses 0 s after
  | [], _ => .pure (Nat.le_refl _)
  | (node, item) :: rest, s => by
    refine (link_proceeds _ _ _).bind fun _ middle hfirst => (link_proceeds _ _ _).bind fun _ after hsecond => ?_
    exact (linkNodes_proceeds rest after).mono fun _ last hlast => by omega

section

variable {object object' : Parser Term} {room : Nat}
  (hobject : ∀ s, s.ahead.length + 1 < room → Proceeds ts s object object' fun _ after => Uses 1 s after)

include hobject

private theorem objects_proceeds : ∀ bound bound' s, s.ahead.length < bound → s.ahead.length < bound' →
    s.ahead.length + 1 < room →
    Proceeds ts s (objects object bound) (objects object' bound') fun _ after => Uses 1 s after
  | 0, _, _, hbound, _, _ => absurd hbound (Nat.not_lt_zero _)
  | _, 0, _, _, hbound', _ => absurd hbound' (Nat.not_lt_zero _)
  | bound + 1, bound' + 1, s, hbound, hbound', hroom => by
    refine (hobject s hroom).bind fun t middle hread => .collect ?_
    refine collectPattern_proceeds.bind fun _ after hcollected => ?_
    have hcount : after.ahead.length + 0 ≤ middle.ahead.length := hcollected
    refine .ifSymbol (fun hkind => ?_) fun _ => .pure (by omega)
    refine .advance (State.offers_one (by simp [hkind])) fun next huses _ => ?_
    exact (objects_proceeds bound bound' next (by omega) (by omega) (by omega)).mono fun _ last hlast => by omega

theorem objectList_proceeds {bound bound' : Nat} {s : State} (predicate : Term) (hbound : s.ahead.length < bound)
    (hbound' : s.ahead.length < bound') (hroom : s.ahead.length + 1 < room) :
    Proceeds ts s (objectList object bound predicate) (objectList object' bound' predicate) fun _ after =>
      Uses 0 s after := by
  refine .token (.ite (fun _ => ?_) fun _ => .ite (fun _ => .collect ?_) fun _ => .token (.fail nofun))
  · exact (objects_proceeds hobject bound bound' s hbound hbound' hroom).mono fun _ after hafter => by omega
  · exact collectPattern_proceeds

theorem propertyList_proceeds : ∀ bound bound' s, s.ahead.length + 1 < bound → s.ahead.length + 1 < bound' →
    s.ahead.length < room →
    Proceeds ts s (propertyList object bound) (propertyList object' bound') fun _ after => Uses 1 s after
  | 0, _, _, hbound, _, _ => absurd hbound (Nat.not_lt_zero _)
  | _, 0, _, _, hbound', _ => absurd hbound' (Nat.not_lt_zero _)
  | bound + 1, bound' + 1, s, hbound, hbound', hroom => by
    refine (verb_proceeds (by omega) (by omega)).bind fun predicate middle hverb => .collect ?_
    refine (objectList_proceeds hobject predicate (by dsimp only; omega) (by dsimp only; omega)
      (by dsimp only; omega)).bind fun _ after hafter => ?_
    have hcount : after.ahead.length + 0 ≤ middle.ahead.length := hafter
    refine .ifSymbol (fun _ => skipSemicolons_proceeds.bind fun _ next huses => ?_) fun _ => .pure (by omega)
    refine .token (.ite (fun _ => ?_) fun _ => .pure (by omega))
    exact (propertyList_proceeds bound bound' next (by omega) (by omega) (by omega)).mono fun _ last hlast => by omega

theorem blankNode_proceeds {bound bound' : Nat} {s : State} (hbound : s.ahead.length < bound)
    (hbound' : s.ahead.length < bound') (hroom : s.ahead.length ≤ room) :
    Proceeds ts s (blankNode object bound) (blankNode object' bound') fun _ after => Uses 1 s after := by
  refine (expectSymbol_proceeds _).bind fun _ opened hopened => freshVariable_proceeds.bind fun node middle hfresh => ?_
  have hcount := hopened.1
  refine Proceeds.bind (Proceeds.nested (n := middle.ahead.length) (.collect ?_)) fun _ after hafter => ?_
  · refine .token (.ite (fun _ => .fail_bind nofun) fun _ => ?_)
    refine (propertyList_proceeds hobject bound bound' _ (by dsimp only; omega) (by dsimp only; omega)
      (by dsimp only; omega)).mono fun _ after hafter => ?_
    have hinside : after.ahead.length + 1 ≤ middle.ahead.length := hafter
    omega
  · exact (expectSymbol_proceeds _).bind fun _ last hclosed => .pure (by have := hclosed.1; omega)

private theorem items_proceeds {opening : Token} (hopening : opening ∈ ts) : ∀ bound bound' s, s.ahead.length < bound →
    s.ahead.length < bound' → s.ahead.length + 1 < room →
    Proceeds ts s (items object opening bound) (items object' opening bound') fun _ after => Uses 1 s after
  | 0, _, _, hbound, _, _ => absurd hbound (Nat.not_lt_zero _)
  | _, 0, _, _, hbound', _ => absurd hbound' (Nat.not_lt_zero _)
  | bound + 1, bound' + 1, s, hbound, hbound', hroom => by
    refine .token (.ite (fun hkind => ?_) fun _ => .ite (fun _ => .failAt hopening nofun) fun _ => ?_)
    · exact .advance (State.offers_one (by simp [hkind])) fun _ huses _ => .pure huses
    · refine (hobject s hroom).bind fun item middle hitem => ?_
      exact (items_proceeds hopening bound bound' middle (by omega) (by omega) (by omega)).bind
        fun _ _ hrest => .pure (by omega)

theorem collection_proceeds {bound bound' : Nat} {s : State} (hbound : s.ahead.length ≤ bound)
    (hbound' : s.ahead.length ≤ bound') (hroom : s.ahead.length < room) :
    Proceeds ts s (collection object bound) (collection object' bound') fun _ after => Uses 1 s after := by
  refine (expectSymbol_proceeds _).bind fun opening middle hopened => ?_
  obtain ⟨hcount, hopening⟩ := hopened
  refine (items_proceeds hobject hopening bound bound' middle (by omega) (by omega) (by omega)).bind
    fun terms after hitems => (freshNodes_proceeds terms).bind fun nodes last hfresh => ?_
  cases nodes with
  | nil => exact .pure (by omega)
  | cons first others =>
    refine Proceeds.bind (Proceeds.nested (n := last.ahead.length) ?_) fun _ done hdone => .pure (by omega)
    exact (linkNodes_proceeds _ _).mono fun _ _ h => h

end

theorem graphNode_proceeds (role : Role) {s : State} :
    Proceeds ts s (graphNode role) (graphNode role) fun _ after => Uses 1 s after := by
  refine .ifSymbol (fun hkind => ?_) fun _ => simpleTerm_proceeds role
  refine .advance (State.offers_one (by simp [hkind])) fun _ huses _ => ?_
  refine (expectSymbol_proceeds _).bind fun _ _ hclosed => ?_
  exact freshVariable_proceeds.mono fun _ after hfresh => by have := hclosed.1; omega

/-- An object takes at least one token, and the bound on its nesting does not show. -/
theorem object_proceeds : ∀ bound bound' s, s.ahead.length + 1 < bound → s.ahead.length + 1 < bound' →
    Proceeds ts s (object bound) (object bound') fun _ after => Uses 1 s after
  | 0, _, _, h, _ => absurd h (Nat.not_lt_zero _)
  | _, 0, _, _, h' => absurd h' (Nat.not_lt_zero _)
  | bound + 1, bound' + 1, s, h, h' => by
    have hobject : ∀ s, s.ahead.length + 1 < min bound bound' →
        Proceeds ts s (object bound) (object bound') fun _ after => Uses 1 s after :=
      fun s hs => object_proceeds bound bound' s (by omega) (by omega)
    refine .step (atBlankNode_apply s) (Moved.refl s) (.ite (fun _ => ?_) fun _ => .ifSymbol (fun _ => ?_) fun _ => ?_)
    · exact blankNode_proceeds hobject (by omega) (by omega) (by omega)
    · exact collection_proceeds hobject (by omega) (by omega) (by omega)
    · exact graphNode_proceeds .object

private theorem triplesRest_proceeds {bound bound' : Nat} {s : State}
    (hobject : ∀ s, s.ahead.length + 1 < min bound bound' →
      Proceeds ts s (object bound) (object bound') fun _ after => Uses 1 s after)
    (h : s.ahead.length + 1 < min bound bound') (isBlank isCollection : Bool) (subject : Term) :
    Proceeds ts s (triplesRest bound isBlank isCollection subject) (triplesRest bound' isBlank isCollection subject)
      fun _ after => Uses 0 s after := by
  refine .collect (.token (.ite (fun _ => ?_) fun _ => .ite (fun _ => .token (.fail nofun)) fun _ =>
    .pure (Nat.le_refl _)))
  refine (propertyList_proceeds hobject bound bound' _ (by dsimp only; omega) (by dsimp only; omega)
    (by dsimp only; omega)).mono fun _ after hafter => ?_
  have hcount : after.ahead.length + 1 ≤ s.ahead.length := hafter
  omega

/-- A block of triples takes at least one token. -/
theorem triples_proceeds {bound bound' : Nat} {s : State} (h : s.ahead.length < bound) (h' : s.ahead.length < bound') :
    Proceeds ts s (triples bound) (triples bound') fun _ after => Uses 1 s after := by
  have hobject : ∀ s, s.ahead.length + 1 < min bound bound' →
      Proceeds ts s (object bound) (object bound') fun _ after => Uses 1 s after :=
    fun s hs => object_proceeds bound bound' s (by omega) (by omega)
  have hrest : ∀ (isBlank isCollection : Bool) (subject : Term) (middle : State), Uses 1 s middle →
      Proceeds ts middle (triplesRest bound isBlank isCollection subject)
        (triplesRest bound' isBlank isCollection subject) fun _ after => Uses 1 s after :=
    fun isBlank isCollection subject middle huses =>
      (triplesRest_proceeds hobject (by omega) isBlank isCollection subject).mono fun _ after huses' => by omega
  rw [triples_eq, triples_eq]
  refine .step (atBlankNode_apply s) (Moved.refl s) (.step (atSymbol_apply _ s) (Moved.refl s) ?_)
  refine .ite (fun _ => ?_) fun _ => .ite (fun _ => ?_) fun _ => ?_
  · exact (blankNode_proceeds hobject h h' (by omega)).bind fun _ _ huses => hrest _ _ _ _ huses
  · exact (collection_proceeds hobject (by omega) (by omega) (by omega)).bind fun _ _ huses => hrest _ _ _ _ huses
  · exact (graphNode_proceeds .subject).bind fun _ _ huses => hrest _ _ _ _ huses

/-! ### Groups -/

section

variable {s : State}

private theorem constraintRest_proceeds :
    Proceeds ts s constraintRest constraintRest fun _ after => Uses 1 s after := by
  refine .ifKeyword (fun hkind => .advance (State.offers_one hkind) fun _ huses _ => ?_) ?_
  · exact (skipBracket_proceeds .openBrace .missingGroup rfl nofun).mono fun _ after huses' => by omega
  · refine .token (.get (.ite (fun hcall => ?_) fun _ => .fail nofun))
    -- The token after the name is the parenthesis, so the brackets that are skipped start there.
    obtain ⟨hname, hparen⟩ := Bool.and_eq_true_iff.1 hcall
    have hkind : s.token.kind ≠ .eof := by
      intro hkind
      simp [Token.isFunctionName, hkind] at hname
    refine .advance (State.offers_one hkind) fun after huses hnext => ?_
    refine (skipBrackets_proceeds ?_).mono fun _ _ huses' => by omega
    rw [hnext, Token.closing?, of_decide_eq_true hparen]
    rfl

/-- A constraint takes at least one token. -/
theorem constraint_proceeds : Proceeds ts s constraint constraint fun _ after => Uses 1 s after := by
  rw [constraint_eq]
  refine .ifSymbol (fun hkind => skipBrackets_proceeds (by rw [Token.closing?, hkind]; rfl)) fun _ => ?_
  refine .ifKeyword (fun hkind => .advance (State.offers_one hkind) fun _ huses _ => ?_) constraintRest_proceeds
  exact (expectKeyword_proceeds _).bind fun _ after huses' => constraintRest_proceeds.mono fun _ _ huses'' => by omega

private theorem values_proceeds : Proceeds ts s values values fun _ after => Uses 1 s after := by
  have hrest : ∀ middle, Uses 1 s middle → Proceeds ts middle (skipBracket .openBrace .missingValues)
      (skipBracket .openBrace .missingValues) fun _ after => Uses 1 s after :=
    fun middle huses => (skipBracket_proceeds .openBrace .missingValues rfl nofun).mono fun _ after huses' => by omega
  refine .token (.ite (fun hkind => ?_) fun _ => ?_)
  · exact .advance (State.offers_one (by simp [hkind])) fun _ huses _ => hrest _ huses
  · exact (skipBracket_proceeds .openParen .missingVariables rfl nofun).bind fun _ _ huses => hrest _ huses

section

variable {group group' : Parser Unit} {room : Nat}
  (hgroup : ∀ s, s.ahead.length + 1 < room → Proceeds ts s group group' fun _ after => Uses 1 s after)

include hgroup

private theorem namedGroup_proceeds (keyword : String) (h : s.ahead.length + 1 < room) :
    Proceeds ts s (namedGroup group keyword) (namedGroup group' keyword) fun _ after => Uses 1 s after := by
  have hnamed : ∀ middle, Uses 0 s middle → Proceeds ts middle (do let _ ← simpleTerm .subject; group)
      (do let _ ← simpleTerm .subject; group') fun _ after => Uses 1 s after := by
    intro middle huses
    refine (simpleTerm_proceeds _).bind fun _ after huses' => ?_
    exact (hgroup after (by omega)).mono fun _ last hlast => by omega
  refine .ite (fun _ => (skipKeyword_proceeds _).bind fun _ middle huses => .token ?_) fun _ => .token ?_
  · split
    · exact hnamed middle huses
    · exact hnamed middle huses
    · exact hnamed middle huses
    · exact .fail nofun
  · split
    · exact hnamed s (Nat.le_refl _)
    · exact hnamed s (Nat.le_refl _)
    · exact hnamed s (Nat.le_refl _)
    · exact .fail nofun

/-- An element of a group takes at least its keyword. -/
theorem element_proceeds (h : s.ahead.length + 1 < room) :
    Proceeds ts s (element group) (element group') fun _ after => Uses 1 s after := by
  refine .advance (.inl rfl) fun middle huses _ => ?_
  refine .ite (fun _ => ?_) fun _ => .ite (fun _ => ?_) fun _ => .ite (fun _ => ?_) fun _ => .ite (fun _ => ?_)
    fun _ => ?_
  · exact (hgroup middle (by omega)).mono fun _ after hafter => by omega
  · exact (namedGroup_proceeds hgroup _ (by omega)).mono fun _ after hafter => by omega
  · exact constraint_proceeds.mono fun _ after hafter => by omega
  · exact (skipBracket_proceeds .openParen .missingBinding rfl nofun).mono fun _ after hafter => by omega
  · exact values_proceeds.mono fun _ after hafter => by omega

private theorem unions_proceeds : ∀ bound bound' s, s.ahead.length < bound → s.ahead.length < bound' →
    s.ahead.length + 1 < room →
    Proceeds ts s (unions group bound) (unions group' bound') fun _ after => Uses 0 s after
  | 0, _, _, hbound, _, _ => absurd hbound (Nat.not_lt_zero _)
  | _, 0, _, _, hbound', _ => absurd hbound' (Nat.not_lt_zero _)
  | bound + 1, bound' + 1, s, hbound, hbound', hroom => by
    refine .ifKeyword (fun hkind => ?_) (.pure (Nat.le_refl _))
    refine .advance (State.offers_one hkind) fun middle huses _ => ?_
    refine (hgroup middle (by omega)).bind fun _ after hafter => ?_
    exact (unions_proceeds bound bound' after (by omega) (by omega) (by omega)).mono fun _ last hlast => by omega

private theorem elements_proceeds {opening : Token} (hopening : opening ∈ ts) :
    ∀ bound bound' s, s.ahead.length + 1 < bound → s.ahead.length + 1 < bound' → s.ahead.length + 1 < room →
    Proceeds ts s (elements group opening bound) (elements group' opening bound') fun _ after => Uses 1 s after
  | 0, _, _, hbound, _, _ => absurd hbound (Nat.not_lt_zero _)
  | _, 0, _, _, hbound', _ => absurd hbound' (Nat.not_lt_zero _)
  | bound + 1, bound' + 1, s, hbound, hbound', hroom => by
    -- Every element takes a token, so the bounds of the others are not met.
    have hrest : ∀ middle : State, Uses 1 s middle → Proceeds ts middle (elements group opening bound)
        (elements group' opening bound') fun _ after => Uses 1 s after := fun middle huses =>
      (elements_proceeds hopening bound bound' middle (by omega) (by omega) (by omega)).mono
        fun _ last hlast => by omega
    refine .token ?_
    split
    next hkind => exact .advance (State.offers_one (by simp [hkind])) fun _ huses _ => .pure huses
    · exact .failAt hopening nofun
    next hkind => exact .advance (State.offers_one (by simp [hkind])) fun middle huses _ => hrest middle huses
    · refine (hgroup s hroom).bind fun _ middle hmiddle => ?_
      refine (unions_proceeds hgroup bound bound' middle (by omega) (by omega) (by omega)).bind fun _ after hafter => ?_
      exact hrest after (by omega)
    · refine .ite (fun _ => ?_) fun _ => ?_
      · exact (element_proceeds hgroup hroom).bind fun _ middle hmiddle => hrest _ hmiddle
      · refine (triples_proceeds (by omega) (by omega)).bind fun _ middle hmiddle => .token ?_
        exact .ite (fun _ => .token (.fail_bind nofun)) fun _ => hrest middle hmiddle

end

/-- A group takes at least one token, and the bound on its depth does not show. -/
theorem group_proceeds : ∀ bound bound' s, s.ahead.length + 1 < bound → s.ahead.length + 1 < bound' →
    Proceeds ts s (group bound) (group bound') fun _ after => Uses 1 s after
  | 0, _, _, h, _ => absurd h (Nat.not_lt_zero _)
  | _, 0, _, _, h' => absurd h' (Nat.not_lt_zero _)
  | bound + 1, bound' + 1, s, h, h' => by
    have hgroup : ∀ s, s.ahead.length + 1 < min bound bound' →
        Proceeds ts s (group bound) (group bound') fun _ after => Uses 1 s after :=
      fun s hs => group_proceeds bound bound' s (by omega) (by omega)
    refine (expectSymbol_proceeds _).bind fun opening middle hopened => ?_
    obtain ⟨hcount, hopening⟩ := hopened
    refine .ifKeyword (fun _ => .fail_bind nofun) ?_
    exact (elements_proceeds hgroup hopening bound bound' middle (by omega) (by omega) (by omega)).mono
      fun _ last hlast => by omega

/-! ### Whole queries -/

theorem prologue_proceeds : ∀ bound bound' s, s.ahead.length < bound → s.ahead.length < bound' →
    Proceeds ts s (prologue bound) (prologue bound') fun _ after => Uses 0 s after
  | 0, _, _, h, _ => absurd h (Nat.not_lt_zero _)
  | _, 0, _, _, h' => absurd h' (Nat.not_lt_zero _)
  | bound + 1, bound' + 1, s, h, h' => by
    -- Whatever is declared, the declarations after it have fewer tokens.
    have hdeclare : ∀ (middle : State) (change : String → Scope → Scope), Uses 1 s middle →
        Proceeds ts middle (prologueRest change bound) (prologueRest change bound') fun _ after => Uses 0 s after := by
      intro middle change huses
      refine (expectIri_proceeds _).bind fun iri after huses' => .collect ?_
      refine (prologue_proceeds bound bound' _ (by dsimp only; omega) (by dsimp only; omega)).mono
        fun _ last hlast => ?_
      have hcount : last.ahead.length + 0 ≤ after.ahead.length := hlast
      omega
    refine .ifKeyword (fun hkind => .advance (State.offers_one hkind) fun middle huses _ => ?_) ?_
    · exact hdeclare middle Scope.setBase huses
    · refine .ifKeyword (fun hkind => ?_) (.pure (Nat.le_refl _))
      refine .advance (State.offers_one hkind) fun middle huses _ => ?_
      refine (expect_proceeds .prefixedName _ nofun).bind fun t after ht => ?_
      obtain ⟨huses', ht⟩ := ht
      exact .ite (fun _ => .failAt_bind ht nofun) fun _ => hdeclare after _ (by omega)

private theorem projections_proceeds : ∀ bound bound' s, s.ahead.length < bound → s.ahead.length < bound' →
    Proceeds ts s (projections bound) (projections bound') fun _ after => Uses 0 s after
  | 0, _, _, h, _ => absurd h (Nat.not_lt_zero _)
  | _, 0, _, _, h' => absurd h' (Nat.not_lt_zero _)
  | bound + 1, bound' + 1, s, h, h' => by
    have hrest : ∀ middle, Uses 1 s middle → Proceeds ts middle (do return (← projections bound) + 1)
        (do return (← projections bound') + 1) fun _ after => Uses 0 s after := fun middle huses =>
      (projections_proceeds bound bound' middle (by omega) (by omega)).bind fun _ after huses' => .pure (by omega)
    refine .token ?_
    split
    next hkind => exact .advance (State.offers_one (by simp [hkind])) fun _ huses _ => hrest _ huses
    next hkind => exact (skipBrackets_proceeds (by rw [Token.closing?, hkind]; rfl)).bind fun _ _ huses => hrest _ huses
    · exact .pure (Nat.le_refl _)

theorem selectClause_proceeds {bound bound' : Nat} (h : s.ahead.length < bound) (h' : s.ahead.length < bound') :
    Proceeds ts s (selectClause bound) (selectClause bound') fun _ after => Uses 1 s after := by
  refine (expectKeyword_proceeds _).bind fun _ _ huses => (skipKeyword_proceeds _).bind fun _ middle huses' => ?_
  refine .ifSymbol (fun hkind => ?_) fun _ => ?_
  · exact .advance (State.offers_one (by simp [hkind])) fun _ huses'' _ => .pure (by omega)
  · refine (projections_proceeds bound bound' middle (by omega) (by omega)).bind fun _ after huses'' => ?_
    exact .ite (fun _ => .fail nofun) fun _ => .pure (by omega)

theorem datasets_proceeds : ∀ bound bound' s, s.ahead.length < bound → s.ahead.length < bound' →
    Proceeds ts s (datasets bound) (datasets bound') fun _ after => Uses 0 s after
  | 0, _, _, h, _ => absurd h (Nat.not_lt_zero _)
  | _, 0, _, _, h' => absurd h' (Nat.not_lt_zero _)
  | bound + 1, bound' + 1, s, h, h' => by
    have hrest : ∀ middle, Uses 1 s middle → Proceeds ts middle (datasets bound) (datasets bound') fun _ after =>
        Uses 0 s after := fun middle huses =>
      (datasets_proceeds bound bound' middle (by omega) (by omega)).mono fun _ after huses' => by omega
    refine .ifKeyword (fun hkind => .advance (State.offers_one hkind) fun _ huses _ => ?_) (.pure (Nat.le_refl _))
    refine (skipKeyword_proceeds _).bind fun _ middle huses' => .token (.ite (fun hkind => ?_) fun _ => ?_)
    · refine .within fun hs => .advance (State.offers_one (by simp [hkind])) fun named hname _ => ?_
      exact (resolveName_proceeds hs.mem).bind fun _ _ hresolved => hrest _ (by omega)
    · exact (expectIri_proceeds _).bind fun _ _ hiri => hrest _ (by omega)

private theorem skipCondition_proceeds : ∀ bound bound' s, s.ahead.length < bound → s.ahead.length < bound' →
    Proceeds ts s (skipCondition bound) (skipCondition bound') fun _ after => Uses 0 s after
  | 0, _, _, h, _ => absurd h (Nat.not_lt_zero _)
  | _, 0, _, _, h' => absurd h' (Nat.not_lt_zero _)
  | bound + 1, bound' + 1, s, h, h' => by
    have hrest : ∀ middle, Uses 1 s middle → Proceeds ts middle (do return (← skipCondition bound) + 1)
        (do return (← skipCondition bound') + 1) fun _ after => Uses 0 s after := fun middle huses =>
      (skipCondition_proceeds bound bound' middle (by omega) (by omega)).bind fun _ after huses' => .pure (by omega)
    refine .token (.ite (fun _ => .pure (Nat.le_refl _)) fun hinside => ?_)
    have hkind : s.token.kind ≠ .eof := fun hkind => hinside (by simp [hkind])
    refine .ite (fun hopens => (skipBrackets_proceeds hopens).bind fun _ _ huses => hrest _ huses) fun _ => ?_
    exact .advance (State.offers_one hkind) fun _ huses _ => hrest _ huses

theorem condition_proceeds {bound bound' : Nat} (h : s.ahead.length < bound) (h' : s.ahead.length < bound') :
    Proceeds ts s (condition bound) (condition bound') fun _ after => Uses 0 s after :=
  (skipCondition_proceeds bound bound' s h h').bind fun _ _ huses => .ite (fun _ => .fail nofun) fun _ => .pure huses

theorem modifiers_proceeds : ∀ bound bound' s, s.ahead.length < bound → s.ahead.length < bound' →
    Proceeds ts s (modifiers bound) (modifiers bound') fun _ after => Uses 0 s after
  | 0, _, _, h, _ => absurd h (Nat.not_lt_zero _)
  | _, 0, _, _, h' => absurd h' (Nat.not_lt_zero _)
  | bound + 1, bound' + 1, s, h, h' => by
    have hrest : ∀ middle, Uses 1 s middle → Proceeds ts middle (modifiers bound) (modifiers bound') fun _ after =>
        Uses 0 s after := fun middle huses =>
      (modifiers_proceeds bound bound' middle (by omega) (by omega)).mono fun _ after huses' => by omega
    have hcondition : ∀ middle, Uses 1 s middle → Proceeds ts middle (do condition bound; modifiers bound)
        (do condition bound'; modifiers bound') fun _ after => Uses 0 s after := fun middle huses =>
      (condition_proceeds (by omega) (by omega)).bind fun _ after huses' => hrest after (by omega)
    refine .token (.ite (fun _ => .pure (Nat.le_refl _)) fun hkind => ?_)
    have hoffers := State.offers_one hkind
    refine .ite (fun _ => ?_) fun _ => .ite (fun _ => ?_) fun _ => .ite (fun _ => ?_) fun _ => .fail_bind nofun
    · refine .advance hoffers fun _ huses _ => ?_
      exact (expect_proceeds .integer _ nofun).bind fun _ after huses' => hrest after (by have := huses'.1; omega)
    · refine .advance hoffers fun _ huses _ => ?_
      exact (expectKeyword_proceeds _).bind fun _ after huses' => hcondition after (by omega)
    · exact .advance hoffers fun _ huses _ => hcondition _ huses

/-- A query takes at least one token, and any two bounds above the number of tokens give the same run. -/
theorem query_proceeds {bound bound' : Nat} (h : s.ahead.length + 1 < bound) (h' : s.ahead.length + 1 < bound') :
    Proceeds ts s (query bound) (query bound') fun _ after => Uses 1 s after := by
  refine (prologue_proceeds bound bound' s (by omega) (by omega)).bind fun _ declared hdeclared => ?_
  refine (selectClause_proceeds (by omega) (by omega)).bind fun _ selected hselected => ?_
  refine (datasets_proceeds bound bound' selected (by omega) (by omega)).bind fun _ placed hplaced => ?_
  refine (skipKeyword_proceeds _).bind fun _ opened hopened => ?_
  refine (group_proceeds bound bound' opened (by omega) (by omega)).bind fun _ closed hclosed => ?_
  refine (modifiers_proceeds bound bound' closed (by omega) (by omega)).bind fun _ last hlast => ?_
  refine Proceeds.bind (Q := fun _ after => Uses 0 last after) ?_ fun _ after hafter => .pure (by omega)
  refine .token (.ite (fun _ => ?_) fun _ => .token (.fail nofun))
  exact (advance_proceeds (.inl rfl)).mono fun _ _ huses => huses.1

end

/-- The state that reading a query starts from is within its tokens. -/
theorem within_start (scope : Scope) (ts : List Token) (length : Nat) :
    Within (ts ++ [.eof length]) { ahead := ts, last := .eof length, scope } :=
  ⟨fun t ht => List.mem_append_left _ ht, by simp, rfl⟩

end PointOfFocus.Query
