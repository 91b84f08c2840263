import PointOfFocus.Proofs.Query.Remainders
import PointOfFocus.Proofs.Query.Stream

/-!
# Steps that leave the patterns alone

Most steps of the parser neither add a pattern nor meet the point of focus: they look at tokens, take or skip them, make
up variables, and read names, literals, paths, declarations and modifiers. Such a step is quiet: if it succeeds, it has
taken tokens from the front and left the patterns, the point of focus with its hint, and the pattern under construction
as they were.
-/

namespace PointOfFocus.Query

open PointOfFocus.Rdf
open Phrase (madeUp)

/-! ### How a step ends -/

/-- If the step succeeds from the state, it ends as said. -/
def Ends {α : Type} (s : State) (m : Parser α) (Q : α → State → Prop) : Prop :=
  ∀ a after, m s = (.ok a, after) → Q a after

section

variable {α β : Type} {s : State} {Q R : α → State → Prop}

/-- A step ends as the last of its parts does, after the first has ended. -/
theorem Ends.bind {m : Parser α} {f : α → Parser β} {Q' : β → State → Prop} (hm : Ends s m Q)
    (hf : ∀ a middle, Q a middle → Ends middle (f a) Q') : Ends s (m >>= f) Q' := by
  intro b after h
  rw [bind_apply] at h
  split at h
  next a middle hfirst => exact hf a middle (hm a middle hfirst) b after h
  · cases h

/-- A step of which the result is known, and what is done after it. -/
theorem Ends.step {m : Parser α} {f : α → Parser β} {a : α} {middle : State} {Q' : β → State → Prop}
    (hm : m s = (.ok a, middle)) (hf : Ends middle (f a) Q') : Ends s (m >>= f) Q' := by
  intro b after h
  rw [bind_apply, hm] at h
  exact hf b after h

/-- What would be done after a fault does not matter. -/
theorem Ends.failAt_bind {f : α → Parser β} {Q' : β → State → Prop} (t : Token) (cause : Cause) :
    Ends s (Query.failAt t cause >>= f) Q' := by
  intro b after h
  cases h

theorem Ends.fail_bind {f : α → Parser β} {Q' : β → State → Prop} (cause : Cause) :
    Ends s (Query.fail cause >>= f) Q' := by
  intro b after h
  cases h

theorem Ends.pure {a : α} (h : Q a s) : Ends s (Pure.pure a : Parser α) Q := by
  intro b after hrun
  cases hrun
  exact h

private theorem Ends.throw (e : Error) : Ends s (MonadExcept.throw e : Parser α) Q := by
  intro b after hrun
  cases hrun

theorem Ends.failAt (t : Token) (cause : Cause) : Ends s (Query.failAt t cause : Parser α) Q := Ends.throw _

theorem Ends.fail (cause : Cause) : Ends s (Query.fail cause : Parser α) Q := by
  intro b after hrun
  cases hrun

theorem Ends.ite {p : Prop} [Decidable p] {m n : Parser α} (hm : p → Ends s m Q) (hn : ¬p → Ends s n Q) :
    Ends s (if p then m else n) Q := by
  split
  next hp => exact hm hp
  next hp => exact hn hp

theorem Ends.mono {m : Parser α} (hm : Ends s m Q) (h : ∀ a after, Q a after → R a after) : Ends s m R :=
  fun a after hrun => h a after (hm a after hrun)

end

/-! ### Quiet steps -/

/-- What the scope says of the point of focus besides its place. -/
def hints (scope : Scope) : Option String × Option String × Int := (scope.keyword, scope.iriStart, scope.pathLength)

/-- Only tokens, labels and the number of made-up variables may differ. -/
structure Quiet (s after : State) : Prop where
  ahead : after.ahead <:+ s.ahead
  last : after.last = s.last
  focus : after.focus = s.focus
  patterns : after.scope.patterns = s.scope.patterns
  current : after.scope.current = s.scope.current
  hints : hints after.scope = hints s.scope

theorem Quiet.refl (s : State) : Quiet s s := ⟨List.suffix_refl _, rfl, rfl, rfl, rfl, rfl⟩

/-- Two steps that leave the patterns alone are one such step. -/
theorem Quiet.trans {s middle after : State} (h : Quiet s middle) (h' : Quiet middle after) : Quiet s after :=
  ⟨h'.ahead.trans h.ahead, h'.last.trans h.last, h'.focus.trans h.focus, h'.patterns.trans h.patterns,
    h'.current.trans h.current, h'.hints.trans h.hints⟩

theorem Quiet.skip (s : State) {ahead : List Token} (h : ahead <:+ s.ahead) : Quiet s { s with ahead } :=
  ⟨h, rfl, rfl, rfl, rfl, rfl⟩

/-- The step is quiet, and its value is as said. -/
def Quietly {α : Type} (m : Parser α) (Q : α → Prop) : Prop := ∀ s, Ends s m fun a after => Quiet s after ∧ Q a

section

variable {α β : Type} {Q : α → Prop} {R : β → Prop}

/-- Steps that leave the patterns alone do so one after the other. -/
theorem Quietly.bind {m : Parser α} {f : α → Parser β} (hm : Quietly m Q) (hf : ∀ a, Q a → Quietly (f a) R) :
    Quietly (m >>= f) R := by
  intro s
  refine (hm s).bind fun a middle ⟨hfirst, ha⟩ => (hf a ha middle).mono fun b after ⟨hsecond, hb⟩ => ?_
  exact ⟨hfirst.trans hsecond, hb⟩

theorem Quietly.pure {a : α} (ha : Q a) : Quietly (Pure.pure a : Parser α) Q := fun s => Ends.pure ⟨Quiet.refl s, ha⟩

private theorem Quietly.throw (e : Error) : Quietly (MonadExcept.throw e : Parser α) Q := fun _ => Ends.throw e

theorem Quietly.failAt (t : Token) (cause : Cause) : Quietly (Query.failAt t cause : Parser α) Q := Quietly.throw _

theorem Quietly.fail (cause : Cause) : Quietly (Query.fail cause : Parser α) Q := fun _ => Ends.fail cause

private theorem Quietly.ite {p : Prop} [Decidable p] {m n : Parser α} (hm : Quietly m Q) (hn : Quietly n Q) :
    Quietly (if p then m else n) Q := by
  split
  · exact hm
  · exact hn

end

/-! ### Basic steps -/

theorem token_quiet : Quietly token fun _ => True := by
  intro s t after h
  cases h
  exact ⟨Quiet.refl s, trivial⟩

private theorem get_quiet : Quietly (get : Parser State) fun _ => True := by
  intro s t after h
  cases h
  exact ⟨Quiet.refl s, trivial⟩

theorem advance_quiet : Quietly advance fun _ => True := by
  intro s t after h
  cases h
  exact ⟨Quiet.skip s (List.tail_suffix _), trivial⟩

private theorem atSymbol_quiet (x : Symbol) : Quietly (atSymbol x) fun _ => True :=
  token_quiet.bind fun _ _ => Quietly.pure trivial

theorem atKeyword_quiet (words : List String) : Quietly (atKeyword words) fun _ => True :=
  token_quiet.bind fun _ _ => Quietly.pure trivial

theorem expect_quiet (kind : Kind) (what : String) : Quietly (expect kind what) fun _ => True :=
  token_quiet.bind fun _ _ => advance_quiet.ite (token_quiet.bind fun _ _ => Quietly.fail _)

theorem expectSymbol_quiet (x : Symbol) : Quietly (expectSymbol x) fun _ => True := expect_quiet _ _

private theorem expectKeyword_quiet (word : String) : Quietly (expectKeyword word) fun _ => True :=
  (atKeyword_quiet _).bind fun _ _ => advance_quiet.ite (token_quiet.bind fun _ _ => Quietly.fail _)

theorem skipKeyword_quiet (words : List String) : Quietly (skipKeyword words) fun _ => True :=
  (atKeyword_quiet _).bind fun _ _ => Quietly.ite (advance_quiet.bind fun _ _ => Quietly.pure trivial)
    (Quietly.pure trivial)

theorem freshVariable_quiet : Quietly freshVariable fun t => ∃ n, t = madeUp n := by
  intro s t after h
  rw [freshVariable_apply] at h
  cases h
  exact ⟨⟨List.suffix_refl _, rfl, rfl, rfl, rfl, rfl⟩, _, rfl⟩

theorem skipSemicolons_quiet : Quietly skipSemicolons fun _ => True := by
  intro s a after h
  cases h
  exact ⟨Quiet.skip s (List.dropWhile_suffix _), trivial⟩

/-- What is left after brackets are the last of the tokens. -/
theorem afterBrackets_suffix {opening : Token} {awaited : List Symbol} {ts rest : List Token}
    (h : afterBrackets opening awaited ts = .ok rest) : rest <:+ ts := by
  fun_induction afterBrackets opening awaited ts with
  | case1 => cases h; exact List.suffix_refl _
  | case2 => cases h
  | case5 => cases h
  | case3 _ _ _ _ _ _ _ _ ih => exact (ih h).trans (List.suffix_cons _ _)
  | case4 _ _ _ _ _ _ ih => exact (ih h).trans (List.suffix_cons _ _)
  | case6 _ _ _ _ _ _ _ _ _ ih => exact (ih h).trans (List.suffix_cons _ _)
  | case7 _ _ _ _ _ ih => exact (ih h).trans (List.suffix_cons _ _)

/-- What is left after a fault in brackets are the last of the tokens. -/
theorem afterBrackets_fault_suffix {opening : Token} {awaited : List Symbol} {ts rest : List Token} {e : Error}
    (h : afterBrackets opening awaited ts = .error (e, rest)) : rest <:+ ts := by
  fun_induction afterBrackets opening awaited ts with
  | case1 => cases h
  | case2 => cases h; exact List.suffix_refl _
  | case5 => cases h; exact List.suffix_cons _ _
  | case3 _ _ _ _ _ _ _ _ ih => exact (ih h).trans (List.suffix_cons _ _)
  | case4 _ _ _ _ _ _ ih => exact (ih h).trans (List.suffix_cons _ _)
  | case6 _ _ _ _ _ _ _ _ _ ih => exact (ih h).trans (List.suffix_cons _ _)
  | case7 _ _ _ _ _ ih => exact (ih h).trans (List.suffix_cons _ _)

private theorem skipBrackets_quiet : Quietly skipBrackets fun _ => True := by
  refine advance_quiet.bind fun opening _ => ?_
  intro s a after h
  simp only [bind_apply, get_apply] at h
  cases hrest : afterBrackets opening opening.closing?.toList s.ahead with
  | error e => rw [hrest] at h; cases h
  | ok rest =>
    rw [hrest] at h
    cases h
    exact ⟨Quiet.skip s (afterBrackets_suffix hrest), trivial⟩

theorem skipBracket_quiet (x : Symbol) (cause : Cause) : Quietly (skipBracket x cause) fun _ => True :=
  (atSymbol_quiet _).bind fun _ _ => skipBrackets_quiet.ite (Quietly.fail _)

/-! ### Names and literals -/

theorem resolve_quiet (label : String) (t : Token) : Quietly (resolve label t) fun _ => True := by
  refine get_quiet.bind fun s _ => ?_
  cases s.scope.prefixIri? label with
  | none => exact Quietly.failAt _ _
  | some iri => exact Quietly.pure trivial

theorem resolveName_quiet (t : Token) : Quietly (resolveName t) fun _ => True :=
  (resolve_quiet _ _).bind fun _ _ => Quietly.pure trivial

private theorem expectIri_quiet (what : String) : Quietly (expectIri what) fun _ => True :=
  (expect_quiet _ _).bind fun _ _ => Quietly.pure trivial

private theorem datatypeIri_quiet : Quietly datatypeIri fun _ => True := by
  refine token_quiet.bind fun t _ => ?_
  split
  · exact advance_quiet.bind fun _ _ => Quietly.pure trivial
  · exact advance_quiet.bind fun _ _ => resolveName_quiet _
  · exact Quietly.fail _

theorem textLiteral_quiet : Quietly textLiteral fun _ => True := by
  refine advance_quiet.bind fun t _ => ?_
  split
  · exact Quietly.throw _
  · refine token_quiet.bind fun _ _ => ?_
    split
    · exact advance_quiet.bind fun _ _ => Quietly.pure trivial
    · exact advance_quiet.bind fun _ _ => datatypeIri_quiet.bind fun _ _ => Quietly.pure trivial
    · exact Quietly.pure trivial

private theorem unsignedNumber_quiet (sign : String) : Quietly (unsignedNumber sign) fun _ => True := by
  refine token_quiet.bind fun _ _ => ?_
  split
  · exact advance_quiet.bind fun _ _ => Quietly.pure trivial
  · exact Quietly.fail _

theorem number_quiet : Quietly number fun _ => True :=
  (atSymbol_quiet _).bind fun _ _ => (atSymbol_quiet _).bind fun _ _ =>
    Quietly.ite (advance_quiet.bind fun _ _ => unsignedNumber_quiet _) (unsignedNumber_quiet _)

/-! ### Paths -/

/-- The term is no variable. -/
def NotVar (t : Term) : Prop := ∀ x, t ≠ .var x

private theorem separated_quiet {α : Type} {x : Symbol} {item : Parser α} {Q : α → Prop} (h : Quietly item Q) :
    ∀ bound, Quietly (separated x item bound) fun _ => True
  | 0 => Quietly.fail _
  | bound + 1 => (atSymbol_quiet _).bind fun _ _ => Quietly.ite
      (advance_quiet.bind fun _ _ => h.bind fun _ _ => (separated_quiet h bound).bind fun _ _ => Quietly.pure trivial)
      (Quietly.pure trivial)

private theorem pathPrimary_quiet {inner : Parser Term} (h : Quietly inner NotVar) :
    Quietly (pathPrimary inner) NotVar := by
  refine token_quiet.bind fun t _ => ?_
  split
  · exact advance_quiet.bind fun _ _ => Quietly.pure (by simp [NotVar])
  · exact advance_quiet.bind fun _ _ => (resolveName_quiet _).bind fun _ _ => Quietly.pure (by simp [NotVar])
  · exact advance_quiet.bind fun _ _ => h.bind fun _ hpath => (expectSymbol_quiet _).bind fun _ _ => Quietly.pure hpath
  · exact Quietly.fail _
  · refine Quietly.ite ?_ (Quietly.fail _)
    exact advance_quiet.bind fun _ _ => Quietly.pure (by simp [NotVar])

private theorem pathStepRest_quiet {inner : Parser Term} (h : Quietly inner NotVar) (inverse : Bool) :
    Quietly (pathStepRest inner inverse) NotVar := by
  refine (pathPrimary_quiet h).bind fun path hpath => token_quiet.bind fun t _ => ?_
  have hvalue : NotVar (if inverse then .inverse path else path) := by
    cases inverse with
    | false => exact hpath
    | true => simp [NotVar]
  exact Quietly.ite ((Quietly.fail _ (Q := fun _ => True)).bind fun _ _ => Quietly.pure hvalue) (Quietly.pure hvalue)

private theorem pathStep_quiet {inner : Parser Term} (h : Quietly inner NotVar) : Quietly (pathStep inner) NotVar := by
  rw [pathStep_eq]
  refine (atSymbol_quiet _).bind fun inverse _ => Quietly.ite ?_ (pathStepRest_quiet h inverse)
  exact advance_quiet.bind fun _ _ => pathStepRest_quiet h inverse

private theorem pathSequence_quiet {inner : Parser Term} (h : Quietly inner NotVar) (bound : Nat) :
    Quietly (pathSequence bound inner) NotVar := by
  refine (pathStep_quiet h).bind fun first hfirst => (separated_quiet (pathStep_quiet h) bound).bind fun rest _ => ?_
  cases rest with
  | nil => exact Quietly.pure hfirst
  | cons second rest => exact Quietly.pure (by simp [NotVar, Term.sequenceOf])

/-- Reading a path leaves the patterns alone, and the path is no variable. -/
theorem path_quiet : ∀ bound, Quietly (path bound) NotVar
  | 0 => Quietly.fail _
  | bound + 1 => by
    have hitem := pathSequence_quiet (path_quiet bound) bound
    refine hitem.bind fun first hfirst => (separated_quiet hitem bound).bind fun rest _ => ?_
    cases rest with
    | nil => exact Quietly.pure hfirst
    | cons second rest => exact Quietly.pure (by simp [NotVar, Term.alternativeOf])

/-! ### Expressions and blocks of values -/

private theorem constraintRest_quiet : Quietly constraintRest fun _ => True := by
  refine (atKeyword_quiet _).bind fun _ _ => Quietly.ite ?_ ?_
  · exact advance_quiet.bind fun _ _ => skipBracket_quiet _ _
  · refine token_quiet.bind fun _ _ => get_quiet.bind fun _ _ => Quietly.ite ?_ (Quietly.fail _)
    exact advance_quiet.bind fun _ _ => skipBrackets_quiet

/-- A constraint leaves the patterns alone. -/
theorem constraint_quiet : Quietly constraint fun _ => True := by
  rw [constraint_eq]
  refine (atSymbol_quiet _).bind fun _ _ => skipBrackets_quiet.ite ?_
  refine (atKeyword_quiet _).bind fun _ _ => Quietly.ite ?_ constraintRest_quiet
  exact advance_quiet.bind fun _ _ => (expectKeyword_quiet _).bind fun _ _ => constraintRest_quiet

/-- A block of values leaves the patterns alone. -/
theorem values_quiet : Quietly values fun _ => True := by
  refine token_quiet.bind fun _ _ => Quietly.ite ?_ ?_
  · exact advance_quiet.bind fun _ _ => skipBracket_quiet _ _
  · exact (skipBracket_quiet _ _).bind fun _ _ => skipBracket_quiet _ _

/-! ### Before and after the group -/

private theorem collect_quiet {change : Scope → Scope} (h : ∀ scope, (change scope).patterns = scope.patterns ∧
    (change scope).current = scope.current ∧ hints (change scope) = hints scope) :
    Quietly (collect change) fun _ => True := by
  intro s a after hrun
  cases hrun
  obtain ⟨hpatterns, hcurrent, hhints⟩ := h s.scope
  exact ⟨⟨List.suffix_refl _, rfl, rfl, hpatterns, hcurrent, hhints⟩, trivial⟩

private theorem setBase_quiet (iri : String) : Quietly (collect (Scope.setBase iri)) fun _ => True :=
  collect_quiet fun _ => ⟨rfl, rfl, rfl⟩

private theorem addPrefix_quiet (label iri : String) : Quietly (collect (Scope.addPrefix label iri)) fun _ => True :=
  collect_quiet fun _ => ⟨rfl, rfl, rfl⟩

/-- Declarations leave the patterns alone. -/
theorem prologue_quiet : ∀ bound, Quietly (prologue bound) fun _ => True
  | 0 => Quietly.fail _
  | bound + 1 => by
    have hdeclare : ∀ change : String → Scope → Scope, (∀ iri, Quietly (collect (change iri)) fun _ => True) →
        Quietly (prologueRest change bound) fun _ => True := fun change hchange =>
      (expectIri_quiet _).bind fun iri _ => (hchange iri).bind fun _ _ => prologue_quiet bound
    refine (atKeyword_quiet _).bind fun _ _ => Quietly.ite ?_ ?_
    · exact advance_quiet.bind fun _ _ => hdeclare Scope.setBase setBase_quiet
    · have hlabel : ∀ label, Quietly (prologueRest (Scope.addPrefix label) bound) fun _ => True :=
        fun label => hdeclare _ (addPrefix_quiet label)
      refine (atKeyword_quiet _).bind fun _ _ => Quietly.ite ?_ (Quietly.pure trivial)
      refine advance_quiet.bind fun _ _ => (expect_quiet _ _).bind fun t _ => Quietly.ite ?_ (hlabel _)
      exact (Quietly.failAt _ _ (Q := fun _ => True)).bind fun _ _ => hlabel _

private theorem projections_quiet : ∀ bound, Quietly (projections bound) fun _ => True
  | 0 => Quietly.fail _
  | bound + 1 => by
    have hrest := projections_quiet bound
    refine token_quiet.bind fun _ _ => ?_
    split
    · exact advance_quiet.bind fun _ _ => hrest.bind fun _ _ => Quietly.pure trivial
    · exact skipBrackets_quiet.bind fun _ _ => hrest.bind fun _ _ => Quietly.pure trivial
    · exact Quietly.pure trivial

theorem selectClause_quiet (bound : Nat) : Quietly (selectClause bound) fun _ => True := by
  refine (expectKeyword_quiet _).bind fun _ _ => (skipKeyword_quiet _).bind fun _ _ => ?_
  refine (atSymbol_quiet _).bind fun _ _ => Quietly.ite ?_ ?_
  · exact advance_quiet.bind fun _ _ => Quietly.pure trivial
  · exact (projections_quiet bound).bind fun _ _ => (Quietly.fail _).ite (Quietly.pure trivial)

theorem datasets_quiet : ∀ bound, Quietly (datasets bound) fun _ => True
  | 0 => Quietly.fail _
  | bound + 1 => by
    have hrest := datasets_quiet bound
    refine (atKeyword_quiet _).bind fun _ _ => Quietly.ite ?_ (Quietly.pure trivial)
    refine advance_quiet.bind fun _ _ => (skipKeyword_quiet _).bind fun _ _ => token_quiet.bind fun _ _ => ?_
    refine Quietly.ite ?_ ((expectIri_quiet _).bind fun _ _ => hrest)
    exact advance_quiet.bind fun _ _ => (resolveName_quiet _).bind fun _ _ => hrest

private theorem skipCondition_quiet : ∀ bound, Quietly (skipCondition bound) fun _ => True
  | 0 => Quietly.fail _
  | bound + 1 => by
    have hrest : Quietly (do return (← skipCondition bound) + 1) fun _ => True :=
      (skipCondition_quiet bound).bind fun _ _ => Quietly.pure trivial
    refine token_quiet.bind fun _ _ => Quietly.ite (Quietly.pure trivial) (Quietly.ite ?_ ?_)
    · exact skipBrackets_quiet.bind fun _ _ => hrest
    · exact advance_quiet.bind fun _ _ => hrest

private theorem condition_quiet (bound : Nat) : Quietly (condition bound) fun _ => True :=
  (skipCondition_quiet bound).bind fun _ _ => (Quietly.fail _).ite (Quietly.pure trivial)

/-- Modifiers leave the patterns alone. -/
theorem modifiers_quiet : ∀ bound, Quietly (modifiers bound) fun _ => True
  | 0 => Quietly.fail _
  | bound + 1 => by
    have hrest := modifiers_quiet bound
    have hcondition : Quietly (do condition bound; modifiers bound) fun _ => True :=
      (condition_quiet bound).bind fun _ _ => hrest
    refine token_quiet.bind fun t _ => Quietly.ite (Quietly.pure trivial) (Quietly.ite ?_ ?_)
    · exact advance_quiet.bind fun _ _ => (expect_quiet _ _).bind fun _ _ => hrest
    refine Quietly.ite ?_ (Quietly.ite ?_ ?_)
    · exact advance_quiet.bind fun _ _ => (expectKeyword_quiet _).bind fun _ _ => hcondition
    · exact advance_quiet.bind fun _ _ => hcondition
    · exact (Quietly.fail _ (Q := fun _ => True)).bind fun _ _ => hrest

end PointOfFocus.Query
