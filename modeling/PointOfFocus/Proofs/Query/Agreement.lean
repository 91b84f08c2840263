import PointOfFocus.Proofs.Query.Faults
import PointOfFocus.Proofs.Query.Groups
import PointOfFocus.Proofs.Query.Variant

/-!
# Readings of variants

The readings of two variants are followed side by side. `Beside` relates their states: what is ahead are variants from a
place on, and what has been collected is the same. `Agree` says that two steps end alike. The two readings have
different bounds, since a bound is the number of tokens; so a step may also end because its bound was too small, which a
whole reading never does.

Here are the steps that take a few tokens: brackets (`skipBrackets_agrees`), names, literals and the point of focus
(`simpleTerm_agrees`).
-/

namespace PointOfFocus.Query

open PointOfFocus.Rdf

/-! ### States side by side -/

/-- The readings are at the same place, with variants ahead of them, and they have collected the same. -/
structure Beside (p : Place) (s s' : State) : Prop where
  ahead : Variant p s.ahead s'.ahead
  last : s.last.Like s'.last
  eof : s.last.kind = .eof
  anonymous : s'.anonymous = s.anonymous
  focus : s'.focus.isSome = s.focus.isSome
  scope : s'.scope = s.scope

namespace Beside

variable {p q : Place} {s s' : State}

theorem token (h : Beside p s s') : s.token.Like s'.token := h.ahead.head h.last

theorem advance (h : Beside p s s') (hplain : p.skips? s.token.kind = none) :
    Beside (p.after s.token) { s with ahead := s.ahead.tail } { s' with ahead := s'.ahead.tail } :=
  ⟨h.ahead.tail hplain, h.last, h.eof, h.anonymous, h.focus, h.scope⟩

theorem next (h : Beside p s s') (hplain : p.skips? s.token.kind = none) : s.next.Like s'.next :=
  (h.advance hplain).token

/-- Where no bracket is skipped, taking a token that leads to none stays there. -/
theorem take (h : Beside .other s s') (hafter : Place.other.after s.token = .other) :
    Beside .other { s with ahead := s.ahead.tail } { s' with ahead := s'.ahead.tail } := by
  have hnext := h.advance rfl
  rwa [hafter] at hnext

theorem collect (h : Beside p s s') (change : Scope → Scope) :
    Beside p { s with scope := change s.scope } { s' with scope := change s'.scope } :=
  ⟨h.ahead, h.last, h.eof, h.anonymous, h.focus, congrArg change h.scope⟩

end Beside

/-! ### Agreement -/

/-- How the two steps end: both succeed with related results and states, or both stop with a fault, unless one of them
stops because its bound is too small. -/
inductive Agree {α β : Type} (s s' : State) (m : Parser α) (m' : Parser β) (R : α → β → Prop)
    (Q : State → State → Prop) : Prop
  | ok {a : α} {b : β} {after after' : State} (hm : m s = (.ok a, after)) (hm' : m' s' = (.ok b, after')) (hR : R a b)
    (hQ : Q after after')
  | error {e e' : Error} {after after' : State} (hm : m s = (.error e, after)) (hm' : m' s' = (.error e', after'))
  | left {offset : Nat} {after : State} (hm : m s = (.error (.at offset .tooDeep), after))
  | right {offset : Nat} {after' : State} (hm' : m' s' = (.error (.at offset .tooDeep), after'))

section

variable {α β γ δ : Type} {s s' : State} {R : α → β → Prop} {Q : State → State → Prop} {R' : γ → δ → Prop}
  {Q' : State → State → Prop} {p : Place}

private theorem bind_error {m : Parser α} {f : α → Parser γ} {e : Error} {after : State} (h : m s = (.error e, after)) :
    (m >>= f) s = (.error e, after) := by
  rw [bind_apply, h]

private theorem bind_ok {m : Parser α} {f : α → Parser γ} {a : α} {middle : State} (h : m s = (.ok a, middle)) :
    (m >>= f) s = f a middle := by
  rw [bind_apply, h]

/-- Two steps of which the results are known, and what is done after them. -/
theorem Agree.step {m : Parser α} {m' : Parser β} {f : α → Parser γ} {f' : β → Parser δ} {a : α} {b : β}
    {middle middle' : State} (hm : m s = (.ok a, middle)) (hm' : m' s' = (.ok b, middle'))
    (hf : Agree middle middle' (f a) (f' b) R' Q') : Agree s s' (m >>= f) (m' >>= f') R' Q' := by
  have heq : (m >>= f) s = f a middle := bind_ok hm
  have heq' : (m' >>= f') s' = f' b middle' := bind_ok hm'
  cases hf with
  | ok hrun hrun' hR hQ => exact .ok (heq.trans hrun) (heq'.trans hrun') hR hQ
  | error hrun hrun' => exact .error (heq.trans hrun) (heq'.trans hrun')
  | left hrun => exact .left (heq.trans hrun)
  | right hrun' => exact .right (heq'.trans hrun')

/-- Readings that agree go on to agree if what follows does. -/
theorem Agree.bind {m : Parser α} {m' : Parser β} {f : α → Parser γ} {f' : β → Parser δ} (hm : Agree s s' m m' R Q)
    (hf : ∀ a b middle middle', R a b → Q middle middle' → Agree middle middle' (f a) (f' b) R' Q') :
    Agree s s' (m >>= f) (m' >>= f') R' Q' := by
  cases hm with
  | ok hrun hrun' hR hQ => exact .step hrun hrun' (hf _ _ _ _ hR hQ)
  | error hrun hrun' => exact .error (bind_error hrun) (bind_error hrun')
  | left hrun => exact .left (bind_error hrun)
  | right hrun' => exact .right (bind_error hrun')

/-- Two steps with the same result, and what is done with it. -/
theorem Agree.seq {m m' : Parser α} {f : α → Parser γ} {f' : α → Parser δ} (hm : Agree s s' m m' Eq Q)
    (hf : ∀ a middle middle', Q middle middle' → Agree middle middle' (f a) (f' a) R' Q') :
    Agree s s' (m >>= f) (m' >>= f') R' Q' :=
  hm.bind fun a _ middle middle' heq hQ => heq ▸ hf a middle middle' hQ

/-- Readings that agree in more agree in less. -/
theorem Agree.mono {R₂ : α → β → Prop} {Q₂ : State → State → Prop} {m : Parser α} {m' : Parser β}
    (hm : Agree s s' m m' R Q) (hR : ∀ a b, R a b → R₂ a b) (hQ : ∀ after after', Q after after' → Q₂ after after') :
    Agree s s' m m' R₂ Q₂ := by
  cases hm with
  | ok hrun hrun' hab hafter => exact .ok hrun hrun' (hR _ _ hab) (hQ _ _ hafter)
  | error hrun hrun' => exact .error hrun hrun'
  | left hrun => exact .left hrun
  | right hrun' => exact .right hrun'

theorem Agree.pure {a : α} {b : β} (hR : R a b) (hQ : Q s s') :
    Agree s s' (Pure.pure a : Parser α) (Pure.pure b : Parser β) R Q := .ok rfl rfl hR hQ

private theorem Agree.throw (e e' : Error) : Agree s s' (throw e : Parser α) (throw e' : Parser β) R Q := .error rfl rfl

theorem Agree.failAt (t t' : Token) (cause cause' : Cause) :
    Agree s s' (Query.failAt t cause : Parser α) (Query.failAt t' cause' : Parser β) R Q := .error rfl rfl

theorem Agree.fail (cause cause' : Cause) :
    Agree s s' (Query.fail cause : Parser α) (Query.fail cause' : Parser β) R Q := .error rfl rfl

theorem Agree.failAt_bind {f : α → Parser γ} {f' : β → Parser δ} (t t' : Token) (cause cause' : Cause) :
    Agree s s' (Query.failAt t cause >>= f) (Query.failAt t' cause' >>= f') R' Q' := .error rfl rfl

theorem Agree.fail_bind {f : α → Parser γ} {f' : β → Parser δ} (cause cause' : Cause) :
    Agree s s' (Query.fail cause >>= f) (Query.fail cause' >>= f') R' Q' := .error rfl rfl

/-- Readings agree on a branch if both take the same one. -/
theorem Agree.ite {c d : Prop} [Decidable c] [Decidable d] {m n : Parser α} {m' n' : Parser β} (hcd : d ↔ c)
    (hm : c → Agree s s' m m' R Q) (hn : ¬c → Agree s s' n n' R Q) :
    Agree s s' (if c then m else n) (if d then m' else n') R Q := by
  by_cases hc : c
  · rw [if_pos hc, if_pos (hcd.2 hc)]
    exact hm hc
  · rw [if_neg hc, if_neg fun hd => hc (hcd.1 hd)]
    exact hn hc

/-! ### Looking at tokens and taking them -/

theorem Agree.token {f : Token → Parser γ} {f' : Token → Parser δ} (h : Agree s s' (f s.token) (f' s'.token) R' Q') :
    Agree s s' (token >>= f) (token >>= f') R' Q' := .step (token_apply s) (token_apply s') h

theorem Agree.get {f : State → Parser γ} {f' : State → Parser δ} (h : Agree s s' (f s) (f' s') R' Q') :
    Agree s s' (get >>= f) (get >>= f') R' Q' := .step (get_apply s) (get_apply s') h

theorem Agree.advance {f : Token → Parser γ} {f' : Token → Parser δ}
    (h : Agree { s with ahead := s.ahead.tail } { s' with ahead := s'.ahead.tail } (f s.token) (f' s'.token) R' Q') :
    Agree s s' (advance >>= f) (advance >>= f') R' Q' := .step (advance_apply s) (advance_apply s') h

theorem Agree.atSymbol (hs : Beside p s s') {x : Symbol} {f : Bool → Parser γ} {f' : Bool → Parser δ}
    (h : Agree s s' (f (decide (s.token.kind = .symbol x))) (f' (decide (s.token.kind = .symbol x))) R' Q') :
    Agree s s' (atSymbol x >>= f) (atSymbol x >>= f') R' Q' :=
  .step (atSymbol_apply x s) (by rw [atSymbol_apply, hs.token.kind]) h

theorem Agree.atKeyword (hs : Beside p s s') {words : List String} {f : Bool → Parser γ} {f' : Bool → Parser δ}
    (h : Agree s s' (f (s.token.isKeyword words)) (f' (s.token.isKeyword words)) R' Q') :
    Agree s s' (atKeyword words >>= f) (atKeyword words >>= f') R' Q' :=
  .step (atKeyword_apply words s) (by rw [atKeyword_apply, hs.token.isKeyword]) h

theorem Agree.collect {change : Scope → Scope} {f : Unit → Parser γ} {f' : Unit → Parser δ}
    (h : Agree { s with scope := change s.scope } { s' with scope := change s'.scope } (f ()) (f' ()) R' Q') :
    Agree s s' (collect change >>= f) (collect change >>= f') R' Q' :=
  .step (collect_apply change s) (collect_apply change s') h

end

/-- The productions read the same thing, side by side, where no bracket is skipped. -/
def Agrees {α : Type} (m m' : Parser α) : Prop := ∀ s s', Beside .other s s' → Agree s s' m m' Eq (Beside .other)

/-- Steps after which only the states matter. -/
abbrev AnyResults {α β : Type} : α → β → Prop := fun _ _ => True

section

variable {s s' : State} {p : Place}

theorem expect_agrees (hs : Beside p s s') {kind : Kind} {Q : State → State → Prop}
    (hQ : s.token.kind = kind → Q { s with ahead := s.ahead.tail } { s' with ahead := s'.ahead.tail }) (what : String) :
    Agree s s' (expect kind what) (expect kind what) Token.Like Q :=
  .token (.ite (by rw [hs.token.kind]) (fun hkind => .ok (advance_apply s) (advance_apply s') hs.token (hQ hkind))
    fun _ => .token (.fail _ _))

/-- A symbol leads to an open place, unless it opens a bracket that is skipped. -/
theorem expectSymbol_agrees (hs : Beside p s s') {x : Symbol} (hplain : p.skips? (.symbol x) = none) :
    Agree s s' (expectSymbol x) (expectSymbol x) Token.Like (Beside .other) := by
  refine expect_agrees hs (fun hkind => ?_) _
  have hnext := hs.advance (hkind ▸ hplain)
  rwa [p.after_symbol hkind] at hnext

/-- Taking a keyword leads to the place after it. -/
theorem Beside.keyword (hs : Beside p s s') {words : List String} (h : s.token.isKeyword words = true) :
    Beside (p.after s.token) { s with ahead := s.ahead.tail } { s' with ahead := s'.ahead.tail } := by
  refine hs.advance ?_
  rw [Token.isKeyword_kind h]
  cases p <;> rfl

theorem expectKeyword_agrees (hs : Beside p s s') {word : String} {q : Place}
    (hq : s.token.isKeyword [word] = true → p.after s.token = q) :
    Agree s s' (expectKeyword word) (expectKeyword word) AnyResults (Beside q) := by
  refine .atKeyword hs (.ite Iff.rfl (fun hword => ?_) fun _ => .token (.fail _ _))
  have hnext := hs.keyword hword
  rw [hq hword] at hnext
  exact .ok (advance_apply s) (advance_apply s') trivial hnext

theorem skipKeyword_agrees (hs : Beside p s s') {words : List String} {Q : State → State → Prop}
    (htaken : ∀ after after', s.token.isKeyword words = true → Beside (p.after s.token) after after' → Q after after')
    (hleft : Q s s') : Agree s s' (skipKeyword words) (skipKeyword words) AnyResults Q :=
  .atKeyword hs (.ite Iff.rfl (fun hword => .advance (.pure trivial (htaken _ _ hword (hs.keyword hword))))
    fun _ => .pure trivial hleft)

theorem freshVariable_agrees (hs : Beside p s s') : Agree s s' freshVariable freshVariable Eq (Beside p) := by
  refine .ok rfl rfl ?_ ⟨hs.ahead, hs.last, hs.eof, congrArg (· + 1) hs.anonymous, hs.focus, hs.scope⟩
  rw [hs.anonymous]

/-- The same pattern is added in both readings. -/
theorem collectPattern_agrees (hs : Beside p s s') :
    Agree s s' collectPattern collectPattern AnyResults (Beside p) := by
  refine .get ?_
  rw [hs.scope]
  cases s.scope.addPattern with
  | error e => exact .throw _ _
  | ok scope => exact .ok rfl rfl trivial (hs.collect fun _ => scope)

/-- Nested readings agree if the steps inside do. -/
theorem Agrees.nested {α : Type} {m m' : Parser α} (h : Agrees m m') : Agrees (nested m) (nested m') := by
  intro s s' hs
  have hinner := h _ _ (hs.collect fun scope => { scope with current := {} })
  cases hinner with
  | ok hrun hrun' heq hafter =>
    refine .ok (by rw [nested_apply, hrun]) (by rw [nested_apply, hrun']) heq ?_
    refine ⟨hafter.ahead, hafter.last, hafter.eof, hafter.anonymous, hafter.focus, ?_⟩
    simp only [hafter.scope, hs.scope]
  | error hrun hrun' => exact .error (by rw [nested_apply, hrun]) (by rw [nested_apply, hrun'])
  | left hrun => exact .left (by rw [nested_apply, hrun])
  | right hrun' => exact .right (by rw [nested_apply, hrun'])

theorem skipSemicolons_agrees (hs : Beside .other s s') :
    Agree s s' skipSemicolons skipSemicolons AnyResults (Beside .other) :=
  .ok rfl rfl trivial ⟨hs.ahead.dropSemicolons, hs.last, hs.eof, hs.anonymous, hs.focus, hs.scope⟩

/-! ### Brackets -/

/-- The readings are past the bracket that was at hand: at the place to which it leads, or at an open one. -/
def Past (p : Place) (kind : Kind) (s s' : State) : Prop := ∃ q, (q = .other ∨ p.skips? kind = some q) ∧ Beside q s s'

/-- A bracket at a place that leads nowhere else leaves the readings at an open place. -/
theorem Past.other {kind : Kind} (h : Past p kind s s') (hplace : ∀ q, p.skips? kind = some q → q = .other) :
    Beside .other s s' := by
  obtain ⟨q, rfl | hq, hs⟩ := h
  · exact hs
  · exact hplace q hq ▸ hs

/-- Skipping the brackets at hand stops in both readings or in neither, and leaves the same to be read. -/
theorem skipBrackets_agrees (hs : Beside p s s') {x : Symbol} (hopens : s.token.closing? = some x) :
    Agree s s' skipBrackets skipBrackets AnyResults (Past p s.token.kind) := by
  have hlast : s.last.closing? = none := by simp [Token.closing?, hs.eof]
  have hskip := @skip_variant p _ _ hs.ahead s.last s'.last x hopens hlast
  refine .advance (.get ?_)
  rw [hs.token.closing?, hopens]
  obtain ⟨rest, rest', hrest, hrest', q, hq, hvariant⟩ | ⟨e, e', herror, herror'⟩ := hskip
  · have hrest : afterBrackets s.token [x] s.ahead.tail = .ok rest := hrest
    have hrest' : afterBrackets s'.token [x] s'.ahead.tail = .ok rest' := hrest'
    simp only [Option.toList, hrest, hrest']
    exact .ok rfl rfl trivial ⟨q, hq, hvariant, hs.last, hs.eof, hs.anonymous, hs.focus, hs.scope⟩
  · have herror : afterBrackets s.token [x] s.ahead.tail = .error e := herror
    have herror' : afterBrackets s'.token [x] s'.ahead.tail = .error e' := herror'
    simp only [Option.toList, herror, herror']
    exact .error rfl rfl

/-- Skipping a bracket that has to stand there stops in both readings or in neither. -/
theorem skipBracket_agrees (hs : Beside p s s') {x y : Symbol} (hx : x.closing? = some y) (cause : Cause) :
    Agree s s' (skipBracket x cause) (skipBracket x cause) AnyResults (Past p (.symbol x)) := by
  refine .atSymbol hs (.ite Iff.rfl (fun hsymbol => ?_) fun _ => .fail _ _)
  have hkind : s.token.kind = .symbol x := of_decide_eq_true hsymbol
  have hskip := skipBrackets_agrees hs (show s.token.closing? = some y by simp [Token.closing?, hkind, hx])
  rwa [hkind] at hskip

/-! ### Names, literals and the point of focus -/

private theorem resolve_agrees (hs : Beside p s s') (label : String) (t t' : Token) :
    Agree s s' (resolve label t) (resolve label t') Eq (Beside p) := by
  refine .get ?_
  rw [hs.scope]
  cases s.scope.prefixIri? label with
  | none => exact .failAt _ _ _ _
  | some iri => exact .pure rfl hs

/-- A prefixed name has the same IRI in both readings. -/
theorem resolveName_agrees (hs : Beside p s s') {t t' : Token} (ht : t.Like t') :
    Agree s s' (resolveName t) (resolveName t') Eq (Beside p) := by
  unfold resolveName
  rw [ht.text]
  refine (resolve_agrees hs _ _ _).seq fun iri middle middle' hmiddle => ?_
  exact .pure rfl hmiddle

/-- An IRI that has to stand there is the same in both readings. -/
theorem expectIri_agrees (hs : Beside .other s s') (what : String) :
    Agree s s' (expectIri what) (expectIri what) Eq (Beside .other) := by
  refine (expect_agrees hs (fun hkind => hs.take (Place.after_kind (by simp [hkind]))) what).bind
    fun t t' middle middle' ht hmiddle => ?_
  rw [ht.text]
  exact .pure rfl hmiddle

private theorem datatypeIri_agrees (hs : Beside .other s s') :
    Agree s s' datatypeIri datatypeIri Eq (Beside .other) := by
  have htake := hs.take
  have hafter := @Place.after_kind s.token
  refine .token ?_
  rw [hs.token.kind]
  cases hkind : s.token.kind with
  | iri =>
    refine .advance ?_
    rw [hs.token.text]
    exact .pure rfl (htake (hafter (by simp [hkind])))
  | prefixedName => exact .advance (resolveName_agrees (htake (hafter (by simp [hkind]))) hs.token)
  | _ => exact .fail _ _

private theorem textLiteral_agrees (hs : Beside .other s s') (hstring : s.token.kind = .string) :
    Agree s s' textLiteral textLiteral Eq (Beside .other) := by
  have hnext := hs.take (Place.after_kind (by simp [hstring]))
  refine .advance ?_
  rw [hs.token.text]
  cases quotedText s.token.text with
  | error e => exact .throw _ _
  | ok lexical =>
    generalize { s with ahead := s.ahead.tail } = middle at hnext
    generalize { s' with ahead := s'.ahead.tail } = middle' at hnext
    have htake := hnext.take
    have hafter := @Place.after_kind middle.token
    refine .token ?_
    rw [hnext.token.kind]
    cases hkind : middle.token.kind with
    | language =>
      refine .advance ?_
      rw [hnext.token.text]
      exact .pure rfl (htake (hafter (by simp [hkind])))
    | datatypeMark =>
      refine .advance ((datatypeIri_agrees (htake (hafter (by simp [hkind])))).seq fun iri after after' hafter => ?_)
      exact .pure rfl hafter
    | _ => exact .pure rfl hnext

private theorem unsignedNumber_agrees (hs : Beside .other s s') (sign : String) :
    Agree s s' (unsignedNumber sign) (unsignedNumber sign) Eq (Beside .other) := by
  refine .token ?_
  rw [hs.token.kind]
  cases htype : numberType? s.token.kind with
  | none => exact .fail _ _
  | some type =>
    have hkind : s.token.kind ≠ .word := by
      intro hword
      rw [hword] at htype
      cases htype
    refine .advance ?_
    rw [hs.token.text]
    exact .pure rfl (hs.take (Place.after_kind hkind))

private theorem number_agrees (hs : Beside .other s s') : Agree s s' number number Eq (Beside .other) := by
  refine .atSymbol hs (.atSymbol hs (.ite Iff.rfl (fun hsign => .advance ?_) fun _ => unsignedNumber_agrees hs _))
  have hkind : s.token.kind ≠ .word := by
    intro hword
    simp [hword] at hsign
  rw [hs.token.text]
  exact unsignedNumber_agrees (hs.take (Place.after_kind hkind)) _

/-- The point of focus is the same in both readings. -/
theorem pointOfFocus_agrees (hs : Beside .other s s') (hword : s.token.kind ≠ .word) (role : Role) :
    Agree s s' (pointOfFocus role) (pointOfFocus role) Eq (Beside .other) := by
  have hnext := hs.take (Place.after_kind hword)
  refine .advance (.get (.ite (by rw [hnext.focus]) (fun _ => .failAt_bind _ _ _ _) fun _ => ?_))
  refine .step (modify_apply _ _) (modify_apply _ _) ?_
  have hmarked : Beside .other { s with ahead := s.ahead.tail, focus := some ⟨s.token, role⟩ }
      { s' with ahead := s'.ahead.tail, focus := some ⟨s'.token, role⟩ } :=
    ⟨hnext.ahead, hs.last, hs.eof, hs.anonymous, rfl, hs.scope⟩
  dsimp only
  rw [hs.token.kind]
  cases s.token.kind with
  | focus hint =>
    cases hint with
    | none => exact .pure rfl hmarked
    | keyword word => exact .collect (.pure rfl (hmarked.collect _))
    | nameStart label part =>
      refine (resolve_agrees hmarked _ _ _).seq fun iri middle middle' hmiddle => ?_
      exact .collect (.pure rfl (hmiddle.collect _))
    | pathLength length =>
      refine .ite Iff.rfl (fun _ => .failAt_bind _ _ _ _) fun _ => ?_
      refine .ite Iff.rfl (fun _ => .failAt_bind _ _ _ _) fun _ => ?_
      exact .collect (.pure rfl (hmarked.collect _))
  | _ => exact .pure rfl hmarked

/-- A term is the same in both readings. -/
theorem simpleTerm_agrees (hs : Beside .other s s') (role : Role) :
    Agree s s' (simpleTerm role) (simpleTerm role) Eq (Beside .other) := by
  have htake := hs.take
  have hafter := @Place.after_kind s.token
  have htext := hs.token.text
  have hnumber : Agree s s' (do return Term.literal (← number)) (do return Term.literal (← number)) Eq
      (Beside .other) := by
    refine (number_agrees hs).seq fun l middle middle' hmiddle => ?_
    exact .pure rfl hmiddle
  have hword : Agree s s'
      (if s.token.isTruth then do
        let word := String.ofList ((← advance).text.toList.map Char.toLower)
        return Term.literal (.typed word (datatype "boolean"))
      else fail (.expected ("a " ++ role.text) s.token))
      (if s'.token.isTruth then do
        let word := String.ofList ((← advance).text.toList.map Char.toLower)
        return Term.literal (.typed word (datatype "boolean"))
      else fail (.expected ("a " ++ role.text) s'.token)) Eq (Beside .other) := by
    refine .ite (by rw [hs.token.isTruth]) (fun htruth => .advance ?_) fun _ => .fail _ _
    rw [htext]
    exact .pure rfl (htake (Place.after_other (isKeyword_of_isTruth htruth (by decide) (by decide))))
  -- No term is a keyword before brackets that are skipped, so the place after it is open again.
  refine .token ?_
  rw [hs.token.kind]
  cases hkind : s.token.kind with
  | focus hint => exact pointOfFocus_agrees hs (by simp [hkind]) role
  | var | iri | blank =>
    refine .advance ?_
    rw [htext]
    exact .pure rfl (htake (hafter (by simp [hkind])))
  | prefixedName =>
    have hname := resolveName_agrees (htake (hafter (by simp [hkind]))) hs.token
    refine .advance (hname.seq fun iri middle middle' hmiddle => ?_)
    exact .pure rfl hmiddle
  | string =>
    refine (textLiteral_agrees hs hkind).seq fun l middle middle' hmiddle => ?_
    exact .pure rfl hmiddle
  | integer | decimal | double => exact hnumber
  | symbol x =>
    cases x with
    | plus | minus => exact hnumber
    | _ => exact hword
  | _ => exact hword

end

end PointOfFocus.Query
