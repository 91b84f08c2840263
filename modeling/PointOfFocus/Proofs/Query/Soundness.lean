import PointOfFocus.Proofs.Query.Names
import PointOfFocus.Proofs.Query.Quiet
import PointOfFocus.Proofs.Query.Shape

/-!
# What a scope can hold

Every step of the parser keeps what is known of the scope: the terms of its patterns have the shape of terms of a query,
labels stand for IRIs, and the length of a path is not negative. So every scope that comes of reading a text is as
`ScopeShape` says (`parse_shaped`).
-/

namespace PointOfFocus.Query

open PointOfFocus.Rdf
open PointOfFocus.Text
open Phrase (madeUp)

/-- What is known of a scope that was filled by reading a text. -/
structure ScopeShape (scope : Scope) : Prop where
  patterns : ∀ p ∈ scope.patterns, PatternShape p
  subject : ∀ t, scope.current.subject = some t → NodeShape t
  predicate : ∀ t, scope.current.predicate = some t → VerbShape t
  object : ∀ t, scope.current.object = some t → NodeShape t
  prefixes : ∀ entry ∈ scope.prefixes, IsIri entry.2
  pathLength : 0 ≤ scope.pathLength
  projection : scope.projection = defaultProjection

/-- The tokens and the scope of the state have their shapes. -/
structure Sound (s : State) : Prop where
  ahead : ∀ t ∈ s.ahead, TokenShape t
  last : TokenShape s.last
  scope : ScopeShape s.scope

private theorem Sound.token {s : State} (h : Sound s) : TokenShape s.token := by
  unfold State.token
  cases hahead : s.ahead with
  | nil => exact h.last
  | cons t ts => exact h.ahead t (by simp [hahead])

private theorem Sound.skip {s : State} (h : Sound s) {ahead : List Token} (hsub : ahead ⊆ s.ahead) :
    Sound { s with ahead } :=
  ⟨fun t ht => h.ahead t (hsub ht), h.last, h.scope⟩

private theorem Sound.tail {s : State} (h : Sound s) : Sound { s with ahead := s.ahead.tail } :=
  h.skip fun _ ht => List.mem_of_mem_tail ht

/-- From the state the step goes to a sound one, with a value as said, unless it fails. -/
def KeepsAt {α : Type} (s : State) (m : Parser α) (Q : α → Prop) : Prop :=
  ∀ a after, m s = (.ok a, after) → Sound after ∧ Q a

/-- From every sound state the step goes to a sound one, with a value as said, unless it fails. -/
def Keeps {α : Type} (m : Parser α) (Q : α → Prop) : Prop := ∀ s, Sound s → KeepsAt s m Q

/-! ### Combinations of steps -/

section

variable {α β : Type} {Q : α → Prop} {R : β → Prop}

private theorem Keeps.bind {m : Parser α} {f : α → Parser β} (hm : Keeps m Q) (hf : ∀ a, Q a → Keeps (f a) R) :
    Keeps (m >>= f) R := by
  intro s hs b after h
  rw [bind_apply] at h
  split at h
  next a middle hfirst =>
    obtain ⟨hmiddle, ha⟩ := hm s hs a middle hfirst
    exact hf a ha middle hmiddle b after h
  · cases h

private theorem Keeps.pure {a : α} (ha : Q a) : Keeps (Pure.pure a : Parser α) Q := by
  intro s hs b after h
  cases h
  exact ⟨hs, ha⟩

private theorem Keeps.throw (e : Error) : Keeps (MonadExcept.throw e : Parser α) Q := by
  intro s _ b after h
  cases h

private theorem Keeps.failAt (t : Token) (cause : Cause) : Keeps (Query.failAt t cause : Parser α) Q := Keeps.throw _

private theorem Keeps.fail (cause : Cause) : Keeps (Query.fail cause : Parser α) Q := by
  intro s _ b after h
  cases h

private theorem Keeps.ite {p : Prop} [Decidable p] {m n : Parser α} (hm : p → Keeps m Q) (hn : ¬ p → Keeps n Q) :
    Keeps (if p then m else n) Q := by
  split
  next hp => exact hm hp
  next hp => exact hn hp

private theorem Keeps.mono {m : Parser α} {Q' : α → Prop} (hm : Keeps m Q) (h : ∀ a, Q a → Q' a) : Keeps m Q' :=
  fun s hs a after hrun => (hm s hs a after hrun).imp_right (h a)

/-- A look at the token at hand, after which the state is still known. -/
private theorem Keeps.peek {f : Token → Parser α} (hf : ∀ s, Sound s → KeepsAt s (f s.token) Q) :
    Keeps (Query.token >>= f) Q := by
  intro s hs a after h
  rw [bind_apply, token_apply] at h
  exact hf s hs a after h

/-- The token that is taken is the one at hand. -/
private theorem KeepsAt.take {s : State} (hs : Sound s) {f : Token → Parser α} (hf : Keeps (f s.token) Q) :
    KeepsAt s (Query.advance >>= f) Q := by
  intro a after h
  rw [bind_apply, advance_apply] at h
  exact hf _ hs.tail a after h

private theorem Keeps.nested {m : Parser α} (hm : Keeps m Q) : Keeps (Query.nested m) Q := by
  intro s hs a after h
  rw [nested_apply] at h
  have hstart : Sound { s with scope := { s.scope with current := {} } } :=
    ⟨hs.ahead, hs.last, { hs.scope with subject := by simp, predicate := by simp, object := by simp }⟩
  split at h
  next result middle hrun =>
    cases h
    obtain ⟨hmiddle, ha⟩ := hm _ hstart a middle hrun
    exact ⟨⟨hmiddle.ahead, hmiddle.last, { hmiddle.scope with
      subject := hs.scope.subject, predicate := hs.scope.predicate, object := hs.scope.object }⟩, ha⟩

end

/-! ### Basic steps -/

private theorem token_keeps : Keeps token TokenShape := by
  intro s hs t after h
  cases h
  exact ⟨hs, hs.token⟩

private theorem advance_keeps : Keeps advance TokenShape := by
  intro s hs t after h
  cases h
  exact ⟨hs.tail, hs.token⟩

private theorem get_keeps : Keeps (get : Parser State) Sound := by
  intro s hs t after h
  cases h
  exact ⟨hs, hs⟩

private theorem atSymbol_keeps (x : Symbol) : Keeps (atSymbol x) fun _ => True := by
  intro s hs b after h
  cases h
  exact ⟨hs, trivial⟩

private theorem atKeyword_keeps (words : List String) : Keeps (atKeyword words) fun _ => True := by
  intro s hs b after h
  cases h
  exact ⟨hs, trivial⟩

private theorem collect_keeps {change : Scope → Scope} (h : ∀ scope, ScopeShape scope → ScopeShape (change scope)) :
    Keeps (collect change) fun _ => True := by
  intro s hs a after hrun
  cases hrun
  exact ⟨⟨hs.ahead, hs.last, h s.scope hs.scope⟩, trivial⟩

private theorem collectPattern_keeps : Keeps collectPattern fun _ => True := by
  intro s hs a after h
  unfold collectPattern at h
  simp only [bind_apply, get_apply] at h
  cases hscope : s.scope.addPattern with
  | error e => rw [hscope] at h; cases h
  | ok scope =>
    rw [hscope] at h
    cases h
    unfold Scope.addPattern at hscope
    split at hscope
    next subject predicate object hcurrent =>
      cases hscope
      have hpattern : PatternShape { subject, predicate, object } :=
        ⟨hs.scope.subject _ (by rw [hcurrent]), hs.scope.predicate _ (by rw [hcurrent]),
          hs.scope.object _ (by rw [hcurrent])⟩
      refine ⟨⟨hs.ahead, hs.last, { hs.scope with patterns := fun p hp => ?_ }⟩, trivial⟩
      rcases List.mem_append.1 hp with hp | hp
      · exact hs.scope.patterns p hp
      · rw [List.mem_singleton.1 hp]
        exact hpattern
    · cases hscope

private theorem setSubject_keeps {t : Term} (ht : NodeShape t) : Keeps (collect (Scope.setSubject t)) fun _ => True :=
  collect_keeps fun _ h => { h with subject := fun u hu => by cases hu; exact ht }

private theorem setPredicate_keeps {t : Term} (ht : VerbShape t) :
    Keeps (collect (Scope.setPredicate t)) fun _ => True :=
  collect_keeps fun _ h => { h with predicate := fun u hu => by cases hu; exact ht }

private theorem setObject_keeps {t : Term} (ht : NodeShape t) : Keeps (collect (Scope.setObject t)) fun _ => True :=
  collect_keeps fun _ h => { h with object := fun u hu => by cases hu; exact ht }

private theorem expect_keeps (kind : Kind) (what : String) :
    Keeps (expect kind what) fun t => TokenShape t ∧ t.kind = kind := by
  refine Keeps.peek fun s hs => ?_
  split
  next hkind =>
    intro t after h
    cases h
    exact ⟨hs.tail, hs.token, hkind⟩
  · exact token_keeps.bind (fun _ _ => Keeps.fail _) s hs

private theorem expectSymbol_keeps (x : Symbol) : Keeps (expectSymbol x) fun _ => True :=
  (expect_keeps _ _).mono fun _ _ => trivial

private theorem expectKeyword_keeps (word : String) : Keeps (expectKeyword word) fun _ => True := by
  refine (atKeyword_keeps _).bind fun b _ => ?_
  exact Keeps.ite (fun _ => advance_keeps.mono fun _ _ => trivial)
    fun _ => token_keeps.bind fun _ _ => Keeps.fail _

private theorem skipKeyword_keeps (words : List String) : Keeps (skipKeyword words) fun _ => True := by
  refine (atKeyword_keeps _).bind fun b _ => ?_
  exact Keeps.ite (fun _ => advance_keeps.bind fun _ _ => Keeps.pure trivial) fun _ => Keeps.pure trivial

private theorem isVarChar_of_isDigit {c : Char} (h : c.isDigit = true) : isVarChar c = true := by
  simp [isVarChar, Char.isAlphanum, h]

/-- The decimal form of a number consists of digits. -/
theorem isDigit_of_mem_repr {n : Nat} {c : Char} (h : c ∈ n.repr.toList) : c.isDigit = true := by
  rw [Nat.toList_repr] at h
  exact Nat.isDigit_of_mem_toDigits (by decide) (by decide) h

theorem isVarChar_of_mem_repr {n : Nat} {c : Char} (h : c ∈ n.repr.toList) : isVarChar c = true :=
  isVarChar_of_isDigit (isDigit_of_mem_repr h)

private theorem madeUp_shaped (n : Nat) : NodeShape (madeUp n) := by
  refine ⟨by simp, fun c hc => ?_⟩
  rw [String.toList_append] at hc
  rcases List.mem_append.1 hc with hc | hc
  · have hall : ∀ d ∈ "_anon".toList, isVarChar d = true := by decide
    exact hall c hc
  · exact isVarChar_of_mem_repr hc

private theorem freshVariable_keeps : Keeps freshVariable NodeShape := by
  intro s hs t after h
  rw [freshVariable_apply] at h
  cases h
  exact ⟨⟨hs.ahead, hs.last, hs.scope⟩, madeUp_shaped _⟩

private theorem skipBrackets_keeps : Keeps skipBrackets fun _ => True := by
  refine advance_keeps.bind fun opening _ => ?_
  intro s hs a after h
  simp only [bind_apply, get_apply] at h
  cases hrest : afterBrackets opening opening.closing?.toList s.ahead with
  | error e => rw [hrest] at h; cases h
  | ok rest =>
    rw [hrest] at h
    cases h
    exact ⟨hs.skip (afterBrackets_suffix hrest).subset, trivial⟩

/-! ### Names and literals -/

private theorem IsIri.append {first second : String} (h₁ : IsIri first) (h₂ : IsIri second) :
    IsIri (first ++ second) := by
  intro c hc
  rw [String.toList_append] at hc
  exact (List.mem_append.1 hc).elim (h₁ c) (h₂ c)

private theorem TokenShape.iri {t : Token} (h : TokenShape t) (hkind : t.kind = .iri) : IsIri (unwrap 1 t.text) := by
  simp only [TokenShape, hkind] at h
  obtain ⟨iri, htext, hiri⟩ := h
  rw [htext, unwrap_brackets]
  exact hiri

private theorem TokenShape.var {t : Token} (h : TokenShape t) (hkind : t.kind = .var) :
    IsVarName (dropFirst 1 t.text) := by
  simp only [TokenShape, hkind] at h
  obtain ⟨mark, x, htext, hx⟩ := h
  rw [htext, dropFirst_mark]
  exact hx

private theorem TokenShape.blank {t : Token} (h : TokenShape t) (hkind : t.kind = .blank) :
    IsBlankLabel (dropFirst 2 t.text) := by
  simp only [TokenShape, hkind] at h
  obtain ⟨label, htext, hlabel⟩ := h
  rw [htext, show dropFirst 2 ("_:" ++ label) = label by simp [dropFirst]]
  exact hlabel

private theorem TokenShape.language {t : Token} (h : TokenShape t) (hkind : t.kind = .language) :
    IsLanguage (dropFirst 1 t.text) := by
  simp only [TokenShape, hkind] at h
  obtain ⟨tag, htext, htag⟩ := h
  rw [htext, show dropFirst 1 ("@" ++ tag) = tag by simp [dropFirst]]
  exact htag

private theorem prefixIri?_shaped {scope : Scope} (h : ScopeShape scope) {label iri : String}
    (hiri : scope.prefixIri? label = some iri) : IsIri iri := by
  obtain ⟨entry, hfind, rfl⟩ := Option.map_eq_some_iff.1 hiri
  exact h.prefixes entry (List.mem_of_find?_eq_some hfind)

private theorem resolve_keeps (label : String) (t : Token) : Keeps (resolve label t) IsIri := by
  refine get_keeps.bind fun s hs => ?_
  cases hiri : s.scope.prefixIri? label with
  | none => exact Keeps.failAt _ _
  | some iri => exact Keeps.pure (prefixIri?_shaped hs.scope hiri)

private theorem resolveName_keeps {t : Token} (ht : TokenShape t) (hkind : t.kind = .prefixedName) :
    Keeps (resolveName t) IsIri := by
  simp only [TokenShape, hkind] at ht
  exact (resolve_keeps _ _).bind fun iri hiri => Keeps.pure (hiri.append ht)

private theorem expectIri_keeps (what : String) : Keeps (expectIri what) IsIri :=
  (expect_keeps _ _).bind fun _ ht => Keeps.pure (ht.1.iri ht.2)

private theorem datatypeIri_keeps : Keeps datatypeIri IsIri := by
  refine Keeps.peek fun s hs => ?_
  split
  next hkind => exact KeepsAt.take hs (Keeps.pure (hs.token.iri hkind))
  next hkind => exact KeepsAt.take hs (resolveName_keeps hs.token hkind)
  · exact Keeps.fail _ s hs

private theorem textLiteral_keeps : Keeps textLiteral LiteralShape := by
  refine advance_keeps.bind fun t _ => ?_
  split
  · exact Keeps.throw _
  next lexical _ =>
    refine Keeps.peek fun s hs => ?_
    split
    next hkind => exact KeepsAt.take hs (Keeps.pure (hs.token.language hkind))
    · exact KeepsAt.take hs (datatypeIri_keeps.bind fun iri hiri => Keeps.pure ⟨hiri, lexical, rfl⟩)
    · exact Keeps.pure trivial s hs

private theorem datatype_isIri {name : String} (h : IsIri name) : IsIri (datatype name) :=
  IsIri.append (by decide) h

private theorem unsignedNumber_keeps (sign : String) : Keeps (unsignedNumber sign) LiteralShape := by
  refine token_keeps.bind fun t _ => ?_
  split
  next type htype =>
    have hiri : IsIri type := by
      unfold numberType? at htype
      split at htype <;> cases htype
      · exact datatype_isIri (by decide)
      · exact datatype_isIri (by decide)
      · exact datatype_isIri (by decide)
    exact advance_keeps.bind fun _ _ => Keeps.pure ⟨hiri, _, rfl⟩
  · exact Keeps.fail _

private theorem number_keeps : Keeps number LiteralShape := by
  refine (atSymbol_keeps _).bind fun plus _ => (atSymbol_keeps _).bind fun minus _ => ?_
  exact Keeps.ite (fun _ => advance_keeps.bind fun _ _ => unsignedNumber_keeps _) fun _ => unsignedNumber_keeps _

private theorem setKeyword_keeps (word : String) : Keeps (collect (Scope.setKeyword word)) fun _ => True := by
  refine collect_keeps fun scope h => ?_
  unfold Scope.setKeyword
  split
  · exact h
  · exact { h with }

private theorem setIriStart_keeps (iri : String) : Keeps (collect (Scope.setIriStart iri)) fun _ => True :=
  collect_keeps fun _ h => { h with }

private theorem setPathLength_keeps (length : Nat) : Keeps (collect (Scope.setPathLength length)) fun _ => True :=
  collect_keeps fun _ h => { h with pathLength := Int.natCast_nonneg length }

theorem focus_shaped : IsVarName "POF" := by decide

private theorem pointOfFocus_keeps (role : Role) : Keeps (pointOfFocus role) fun t => t = .focus := by
  have hfail : ∀ (t : Token) (cause : Cause) (f : PUnit → Parser Term),
      Keeps (failAt t cause >>= f) fun t => t = .focus :=
    fun t cause f => (Keeps.failAt t cause (Q := fun _ => False)).bind fun _ h => h.elim
  refine advance_keeps.bind fun t _ => get_keeps.bind fun s _ => ?_
  refine Keeps.ite (fun _ => hfail _ _ _) fun _ => ?_
  refine Keeps.bind (Q := fun _ => True) (fun s hs _ _ h => ?_) fun _ _ => ?_
  · cases h
    exact ⟨⟨hs.ahead, hs.last, hs.scope⟩, trivial⟩
  dsimp only
  split
  next length _ =>
    refine Keeps.ite (fun _ => hfail _ _ _) fun _ => Keeps.ite (fun _ => hfail _ _ _) fun _ => ?_
    exact (setPathLength_keeps length).bind fun _ _ => Keeps.pure rfl
  · exact (resolve_keeps _ _).bind fun _ _ => (setIriStart_keeps _).bind fun _ _ => Keeps.pure rfl
  · exact (setKeyword_keeps _).bind fun _ _ => Keeps.pure rfl
  · exact Keeps.pure rfl

private theorem simpleTerm_keeps (role : Role) : Keeps (simpleTerm role) NodeShape := by
  have hliteral : ∀ m : Parser Literal, Keeps m LiteralShape → Keeps (do return .literal (← m)) NodeShape :=
    fun m hm => hm.bind fun l hl => Keeps.pure (Q := NodeShape) (a := .literal l) hl
  refine Keeps.peek fun s hs => ?_
  split
  · exact (pointOfFocus_keeps role).mono (fun t ht => by subst ht; exact focus_shaped) s hs
  next hkind => exact KeepsAt.take hs (Keeps.pure (hs.token.var hkind))
  next hkind => exact KeepsAt.take hs (Keeps.pure (hs.token.iri hkind))
  next hkind => exact KeepsAt.take hs ((resolveName_keeps hs.token hkind).bind fun _ hiri => Keeps.pure hiri)
  next hkind => exact KeepsAt.take hs (Keeps.pure (hs.token.blank hkind))
  · exact hliteral _ textLiteral_keeps s hs
  · exact hliteral _ number_keeps s hs
  · exact hliteral _ number_keeps s hs
  · exact hliteral _ number_keeps s hs
  · exact hliteral _ number_keeps s hs
  · exact hliteral _ number_keeps s hs
  · split
    · have hboolean : ∀ word, NodeShape (.literal (.typed word (datatype "boolean"))) :=
        fun word => ⟨datatype_isIri (by decide), word, rfl⟩
      exact advance_keeps.bind (fun _ _ => Keeps.pure (hboolean _)) s hs
    · exact Keeps.fail _ s hs

/-! ### Paths -/

private theorem separated_keeps {α : Type} {x : Symbol} {item : Parser α} {Q : α → Prop} (h : Keeps item Q) :
    ∀ bound, Keeps (separated x item bound) fun as => ∀ a ∈ as, Q a
  | 0 => Keeps.fail _
  | bound + 1 => by
    refine (atSymbol_keeps _).bind fun _ _ => Keeps.ite (fun _ => ?_) fun _ => Keeps.pure (by simp)
    refine advance_keeps.bind fun _ _ => h.bind fun a ha => (separated_keeps h bound).bind fun rest hrest => ?_
    exact Keeps.pure (List.forall_mem_cons.2 ⟨ha, hrest⟩)

private theorem pathPrimary_keeps {inner : Parser Term} (h : Keeps inner PathShape) :
    Keeps (pathPrimary inner) PathShape := by
  refine Keeps.peek fun s hs => ?_
  split
  next hkind => exact KeepsAt.take hs (Keeps.pure (.iri (hs.token.iri hkind)))
  next hkind => exact KeepsAt.take hs ((resolveName_keeps hs.token hkind).bind fun _ hiri => Keeps.pure (.iri hiri))
  · refine KeepsAt.take hs (h.bind fun path hpath => ?_)
    exact (expectSymbol_keeps _).bind fun _ _ => Keeps.pure hpath
  · exact Keeps.fail _ s hs
  · split
    · exact KeepsAt.take hs (Keeps.pure (.iri (by decide)))
    · exact Keeps.fail _ s hs

private theorem pathStepRest_keeps {inner : Parser Term} (h : Keeps inner PathShape) (inverse : Bool) :
    Keeps (pathStepRest inner inverse) PathShape := by
  refine (pathPrimary_keeps h).bind fun path hpath => token_keeps.bind fun t _ => ?_
  refine Keeps.ite (fun _ => (Keeps.fail _ (Q := fun _ => True)).bind fun _ _ => ?_) fun _ => ?_
  all_goals
    cases inverse
    · exact Keeps.pure hpath
    · exact Keeps.pure (.inverse hpath)

private theorem pathStep_keeps {inner : Parser Term} (h : Keeps inner PathShape) :
    Keeps (pathStep inner) PathShape := by
  rw [pathStep_eq]
  refine (atSymbol_keeps _).bind fun inverse _ => Keeps.ite (fun _ => ?_) fun _ => pathStepRest_keeps h inverse
  exact advance_keeps.bind fun _ _ => pathStepRest_keeps h inverse

/-- The steps of a path are paths that are no sequences. -/
private theorem steps_shaped {t : Term} (h : PathShape t) :
    t.steps ≠ [] ∧ ∀ u ∈ t.steps, PathShape u ∧ isSequence u = false := by
  cases h with
  | sequence hlength hparts hflat =>
    exact ⟨List.ne_nil_of_length_pos (Nat.lt_of_lt_of_le Nat.two_pos hlength), fun u hu => ⟨hparts u hu, hflat u hu⟩⟩
  | iri h => simpa [Term.steps, isSequence] using PathShape.iri h
  | alternative hlength hparts hflat =>
    simpa [Term.steps, isSequence] using PathShape.alternative hlength hparts hflat
  | inverse h => simpa [Term.steps, isSequence] using PathShape.inverse h

/-- The branches of a path are paths that are no alternatives. -/
private theorem branches_shaped {t : Term} (h : PathShape t) :
    t.branches ≠ [] ∧ ∀ u ∈ t.branches, PathShape u ∧ isAlternative u = false := by
  cases h with
  | alternative hlength hparts hflat =>
    exact ⟨List.ne_nil_of_length_pos (Nat.lt_of_lt_of_le Nat.two_pos hlength), fun u hu => ⟨hparts u hu, hflat u hu⟩⟩
  | iri h => simpa [Term.branches, isAlternative] using PathShape.iri h
  | sequence hlength hparts hflat =>
    simpa [Term.branches, isAlternative] using PathShape.sequence hlength hparts hflat
  | inverse h => simpa [Term.branches, isAlternative] using PathShape.inverse h

/-- Parts that are not empty are at least as many as what they are parts of. -/
private theorem two_le_length_flatMap {f : Term → List Term} {first second : Term} {rest : List Term}
    (h : ∀ t ∈ first :: second :: rest, f t ≠ []) : 2 ≤ ((first :: second :: rest).flatMap f).length := by
  have h₁ := List.length_pos_of_ne_nil (h first (by simp))
  have h₂ := List.length_pos_of_ne_nil (h second (by simp))
  simp only [List.flatMap_cons, List.length_append]
  omega

private theorem sequenceOf_shaped {first second : Term} {rest : List Term}
    (h : ∀ t ∈ first :: second :: rest, PathShape t) : PathShape (.sequenceOf (first :: second :: rest)) := by
  refine .sequence (two_le_length_flatMap fun t ht => (steps_shaped (h t ht)).1) (fun u hu => ?_) fun u hu => ?_
  all_goals
    obtain ⟨t, ht, hu⟩ := List.mem_flatMap.1 hu
    obtain ⟨hshape, hflat⟩ := (steps_shaped (h t ht)).2 u hu
  · exact hshape
  · exact hflat

private theorem alternativeOf_shaped {first second : Term} {rest : List Term}
    (h : ∀ t ∈ first :: second :: rest, PathShape t) : PathShape (.alternativeOf (first :: second :: rest)) := by
  refine .alternative (two_le_length_flatMap fun t ht => (branches_shaped (h t ht)).1) (fun u hu => ?_) fun u hu => ?_
  all_goals
    obtain ⟨t, ht, hu⟩ := List.mem_flatMap.1 hu
    obtain ⟨hshape, hflat⟩ := (branches_shaped (h t ht)).2 u hu
  · exact hshape
  · exact hflat

private theorem pathSequence_keeps {inner : Parser Term} (h : Keeps inner PathShape) (bound : Nat) :
    Keeps (pathSequence bound inner) PathShape := by
  refine (pathStep_keeps h).bind fun first hfirst => (separated_keeps (pathStep_keeps h) bound).bind fun rest hrest => ?_
  cases rest with
  | nil => exact Keeps.pure hfirst
  | cons second rest => exact Keeps.pure (sequenceOf_shaped (List.forall_mem_cons.2 ⟨hfirst, hrest⟩))

private theorem path_keeps : ∀ bound, Keeps (path bound) PathShape
  | 0 => Keeps.fail _
  | bound + 1 => by
    have hitem := pathSequence_keeps (path_keeps bound) bound
    refine hitem.bind fun first hfirst => (separated_keeps hitem bound).bind fun rest hrest => ?_
    cases rest with
    | nil => exact Keeps.pure hfirst
    | cons second rest => exact Keeps.pure (alternativeOf_shaped (List.forall_mem_cons.2 ⟨hfirst, hrest⟩))

private theorem verb_keeps (bound : Nat) : Keeps (verb bound) VerbShape := by
  refine Keeps.peek fun s hs => ?_
  split
  · exact (pointOfFocus_keeps _).mono (fun t ht => Or.inl ⟨"POF", ht, focus_shaped⟩) s hs
  next hkind => exact KeepsAt.take hs (Keeps.pure (Or.inl ⟨_, rfl, hs.token.var hkind⟩))
  · exact (path_keeps bound).mono (fun _ => Or.inr) s hs

/-! ### Triples -/

section

variable {inner : Parser Term}

private theorem objects_keeps (h : Keeps inner NodeShape) : ∀ bound, Keeps (objects inner bound) fun _ => True
  | 0 => Keeps.fail _
  | bound + 1 => by
    refine h.bind fun t ht => (setObject_keeps ht).bind fun _ _ => collectPattern_keeps.bind fun _ _ => ?_
    refine (atSymbol_keeps _).bind fun _ _ => Keeps.ite (fun _ => ?_) fun _ => Keeps.pure trivial
    exact advance_keeps.bind fun _ _ => objects_keeps h bound

private theorem filler_shaped : NodeShape .filler := by
  show IsVarName "FillVar"
  decide

private theorem objectList_keeps (h : Keeps inner NodeShape) (bound : Nat) (predicate : Term) :
    Keeps (objectList inner bound predicate) fun _ => True := by
  refine token_keeps.bind fun t _ => Keeps.ite (fun _ => objects_keeps h bound) fun _ => Keeps.ite (fun _ => ?_) fun _ => ?_
  · exact (setObject_keeps filler_shaped).bind fun _ _ => collectPattern_keeps
  · exact token_keeps.bind fun _ _ => Keeps.fail _

private theorem skipSemicolons_keeps : Keeps skipSemicolons fun _ => True := by
  intro s hs a after h
  cases h
  exact ⟨hs.skip (List.dropWhile_suffix _).subset, trivial⟩

private theorem propertyList_keeps (h : Keeps inner NodeShape) : ∀ bound, Keeps (propertyList inner bound) fun _ => True
  | 0 => Keeps.fail _
  | bound + 1 => by
    refine (verb_keeps bound).bind fun predicate hpredicate => (setPredicate_keeps hpredicate).bind fun _ _ => ?_
    refine (objectList_keeps h bound predicate).bind fun _ _ => (atSymbol_keeps _).bind fun _ _ => ?_
    refine Keeps.ite (fun _ => ?_) fun _ => Keeps.pure trivial
    refine skipSemicolons_keeps.bind fun _ _ => token_keeps.bind fun _ _ => ?_
    exact Keeps.ite (fun _ => propertyList_keeps h bound) fun _ => Keeps.pure trivial

private theorem blankNode_keeps (h : Keeps inner NodeShape) (bound : Nat) :
    Keeps (blankNode inner bound) NodeShape := by
  refine (expectSymbol_keeps _).bind fun _ _ => freshVariable_keeps.bind fun node hnode => ?_
  refine Keeps.bind (Q := fun _ => True) (Keeps.nested ?_) fun _ _ => ?_
  · refine (setSubject_keeps hnode).bind fun _ _ => token_keeps.bind fun _ _ => Keeps.ite (fun _ => ?_) fun _ => ?_
    · exact (Keeps.fail _ (Q := fun _ => True)).bind fun _ _ => propertyList_keeps h bound
    · exact propertyList_keeps h bound
  · exact (expectSymbol_keeps _).bind fun _ _ => Keeps.pure hnode

private theorem items_keeps (h : Keeps inner NodeShape) (opening : Token) :
    ∀ bound, Keeps (items inner opening bound) fun ts => ∀ t ∈ ts, NodeShape t
  | 0 => Keeps.fail _
  | bound + 1 => by
    refine token_keeps.bind fun t _ => Keeps.ite (fun _ => ?_) fun _ => Keeps.ite (fun _ => Keeps.failAt _ _) fun _ => ?_
    · exact advance_keeps.bind fun _ _ => Keeps.pure (by simp)
    · refine h.bind fun item hitem => (items_keeps h opening bound).bind fun rest hrest => ?_
      exact Keeps.pure (List.forall_mem_cons.2 ⟨hitem, hrest⟩)

private theorem freshNodes_keeps : ∀ ts, Keeps (freshNodes ts) fun nodes => ∀ t ∈ nodes, NodeShape t
  | [] => Keeps.pure (by simp)
  | _ :: rest => freshVariable_keeps.bind fun _ hnode => (freshNodes_keeps rest).bind fun _ hnodes =>
      Keeps.pure (List.forall_mem_cons.2 ⟨hnode, hnodes⟩)

private theorem link_keeps {subject object : Term} {predicate : String} (hsubject : NodeShape subject)
    (hpredicate : IsIri predicate) (hobject : NodeShape object) : Keeps (link subject predicate object) fun _ => True :=
  (setSubject_keeps hsubject).bind fun _ _ => (setPredicate_keeps (.inr (.iri hpredicate))).bind fun _ _ =>
    (setObject_keeps hobject).bind fun _ _ => collectPattern_keeps

private theorem nilIri_shaped : NodeShape (.iri nilIri) := by
  show IsIri nilIri
  decide

private theorem linkNodes_keeps :
    ∀ entries : List (Term × Term), (∀ entry ∈ entries, NodeShape entry.1 ∧ NodeShape entry.2) →
    Keeps (linkNodes entries) fun _ => True
  | [], _ => Keeps.pure trivial
  | (node, item) :: rest, h => by
    obtain ⟨⟨hnode, hitem⟩, hrest⟩ := List.forall_mem_cons.1 h
    have hnext : NodeShape ((rest.head?.map (·.1)).getD (.iri nilIri)) := by
      cases rest with
      | nil => exact nilIri_shaped
      | cons entry _ => exact (hrest entry List.mem_cons_self).1
    refine (link_keeps hnode (by decide) hitem).bind fun _ _ => (link_keeps hnode (by decide) hnext).bind fun _ _ => ?_
    exact linkNodes_keeps rest hrest

private theorem collection_keeps (h : Keeps inner NodeShape) (bound : Nat) :
    Keeps (collection inner bound) NodeShape := by
  refine (expectSymbol_keeps _).bind fun opening _ => (items_keeps h opening bound).bind fun terms hterms => ?_
  refine (freshNodes_keeps terms).bind fun nodes hnodes => ?_
  cases nodes with
  | nil => exact Keeps.pure nilIri_shaped
  | cons first others =>
    have hentries : ∀ entry ∈ (first :: others).zip terms, NodeShape entry.1 ∧ NodeShape entry.2 := by
      intro entry hentry
      obtain ⟨hnode, hitem⟩ := List.of_mem_zip hentry
      exact ⟨hnodes _ hnode, hterms _ hitem⟩
    exact (Keeps.nested (linkNodes_keeps _ hentries)).bind fun _ _ => Keeps.pure (hnodes first List.mem_cons_self)

end

private theorem graphNode_keeps (role : Role) : Keeps (graphNode role) NodeShape := by
  refine (atSymbol_keeps _).bind fun _ _ => Keeps.ite (fun _ => ?_) fun _ => simpleTerm_keeps role
  exact advance_keeps.bind fun _ _ => (expectSymbol_keeps _).bind fun _ _ => freshVariable_keeps

private theorem atBlankNode_keeps : Keeps atBlankNode fun _ => True := get_keeps.bind fun _ _ => Keeps.pure trivial

private theorem object_keeps : ∀ bound, Keeps (object bound) NodeShape
  | 0 => Keeps.fail _
  | bound + 1 => by
    have h := object_keeps bound
    refine atBlankNode_keeps.bind fun _ _ => Keeps.ite (fun _ => blankNode_keeps h bound) fun _ => ?_
    refine (atSymbol_keeps _).bind fun _ _ => Keeps.ite (fun _ => collection_keeps h bound) fun _ => ?_
    exact graphNode_keeps _

private theorem triplesRest_keeps (bound : Nat) (isBlank isCollection : Bool) {subject : Term}
    (hsubject : NodeShape subject) : Keeps (triplesRest bound isBlank isCollection subject) fun _ => True := by
  refine (setSubject_keeps hsubject).bind fun _ _ => token_keeps.bind fun _ _ => ?_
  refine Keeps.ite (fun _ => propertyList_keeps (object_keeps bound) bound) fun _ => ?_
  exact Keeps.ite (fun _ => token_keeps.bind fun _ _ => Keeps.fail _) fun _ => Keeps.pure trivial

private theorem triples_keeps (bound : Nat) : Keeps (triples bound) fun _ => True := by
  have h := object_keeps bound
  rw [triples_eq]
  refine atBlankNode_keeps.bind fun isBlank _ => (atSymbol_keeps _).bind fun isCollection _ => ?_
  refine Keeps.ite (fun _ => (blankNode_keeps h bound).bind fun _ ht => triplesRest_keeps bound _ _ ht) fun _ => ?_
  refine Keeps.ite (fun _ => (collection_keeps h bound).bind fun _ ht => triplesRest_keeps bound _ _ ht) fun _ => ?_
  exact (graphNode_keeps _).bind fun _ ht => triplesRest_keeps bound _ _ ht

/-! ### Groups -/

private theorem skipBracket_keeps (x : Symbol) (cause : Cause) : Keeps (skipBracket x cause) fun _ => True :=
  (atSymbol_keeps _).bind fun _ _ => Keeps.ite (fun _ => skipBrackets_keeps) fun _ => Keeps.fail _

private theorem constraintRest_keeps : Keeps constraintRest fun _ => True := by
  refine (atKeyword_keeps _).bind fun _ _ => Keeps.ite (fun _ => ?_) fun _ => ?_
  · exact advance_keeps.bind fun _ _ => skipBracket_keeps _ _
  · refine token_keeps.bind fun _ _ => get_keeps.bind fun _ _ => Keeps.ite (fun _ => ?_) fun _ => Keeps.fail _
    exact advance_keeps.bind fun _ _ => skipBrackets_keeps

private theorem constraint_keeps : Keeps constraint fun _ => True := by
  rw [constraint_eq]
  refine (atSymbol_keeps _).bind fun _ _ => Keeps.ite (fun _ => skipBrackets_keeps) fun _ => ?_
  refine (atKeyword_keeps _).bind fun _ _ => Keeps.ite (fun _ => ?_) fun _ => constraintRest_keeps
  exact advance_keeps.bind fun _ _ => (expectKeyword_keeps _).bind fun _ _ => constraintRest_keeps

private theorem values_keeps : Keeps values fun _ => True := by
  refine token_keeps.bind fun _ _ => Keeps.ite (fun _ => ?_) fun _ => ?_
  · exact advance_keeps.bind fun _ _ => skipBracket_keeps _ _
  · exact (skipBracket_keeps _ _).bind fun _ _ => skipBracket_keeps _ _

section

variable {inner : Parser Unit}

private theorem namedGroup_keeps (h : Keeps inner fun _ => True) (keyword : String) :
    Keeps (namedGroup inner keyword) fun _ => True := by
  have hname : Keeps (do let _ ← simpleTerm .subject; inner) fun _ => True :=
    (simpleTerm_keeps _).bind fun _ _ => h
  unfold namedGroup
  refine Keeps.ite (fun _ => (skipKeyword_keeps _).bind fun _ _ => ?_) fun _ => ?_
  all_goals
    refine token_keeps.bind fun _ _ => ?_
    split
    · exact hname
    · exact hname
    · exact hname
    · exact Keeps.fail _

private theorem element_keeps (h : Keeps inner fun _ => True) : Keeps (element inner) fun _ => True := by
  refine advance_keeps.bind fun _ _ => ?_
  refine Keeps.ite (fun _ => h) fun _ => Keeps.ite (fun _ => namedGroup_keeps h _) fun _ => ?_
  refine Keeps.ite (fun _ => constraint_keeps) fun _ => Keeps.ite (fun _ => skipBracket_keeps _ _) fun _ => ?_
  exact values_keeps

private theorem unions_keeps (h : Keeps inner fun _ => True) : ∀ bound, Keeps (unions inner bound) fun _ => True
  | 0 => Keeps.fail _
  | bound + 1 => by
    refine (atKeyword_keeps _).bind fun _ _ => Keeps.ite (fun _ => ?_) fun _ => Keeps.pure trivial
    exact advance_keeps.bind fun _ _ => h.bind fun _ _ => unions_keeps h bound

private theorem elements_keeps (h : Keeps inner fun _ => True) (opening : Token) :
    ∀ bound, Keeps (elements inner opening bound) fun _ => True
  | 0 => Keeps.fail _
  | bound + 1 => by
    have hrest := elements_keeps h opening bound
    refine token_keeps.bind fun t _ => ?_
    split
    · exact advance_keeps.bind fun _ _ => Keeps.pure trivial
    · exact Keeps.failAt _ _
    · exact advance_keeps.bind fun _ _ => hrest
    · exact h.bind fun _ _ => (unions_keeps h bound).bind fun _ _ => hrest
    · refine Keeps.ite (fun _ => (element_keeps h).bind fun _ _ => hrest) fun _ => ?_
      refine (triples_keeps bound).bind fun _ _ => token_keeps.bind fun _ _ => Keeps.ite (fun _ => ?_) fun _ => hrest
      exact token_keeps.bind fun _ _ => (Keeps.fail _ (Q := fun _ => True)).bind fun _ _ => hrest

end

private theorem group_keeps : ∀ bound, Keeps (group bound) fun _ => True
  | 0 => Keeps.fail _
  | bound + 1 => by
    refine (expectSymbol_keeps _).bind fun opening _ => (atKeyword_keeps _).bind fun _ _ => ?_
    have hrest := elements_keeps (group_keeps bound) opening bound
    exact Keeps.ite (fun _ => (Keeps.fail _ (Q := fun _ => True)).bind fun _ _ => hrest) fun _ => hrest

/-! ### Queries -/

private theorem setEntry_shaped {entries : List (String × String)} {label iri : String}
    (h : ∀ entry ∈ entries, IsIri entry.2)
    (hiri : IsIri iri) : ∀ entry ∈ Data.setEntry entries label iri, IsIri entry.2 := by
  intro entry hentry
  unfold Data.setEntry at hentry
  split at hentry
  · obtain ⟨old, hold, rfl⟩ := List.mem_map.1 hentry
    split
    · exact hiri
    · exact h old hold
  · rcases List.mem_append.1 hentry with hentry | hentry
    · exact h entry hentry
    · rw [List.mem_singleton.1 hentry]
      exact hiri

private theorem addPrefix_keeps (label : String) {iri : String} (hiri : IsIri iri) :
    Keeps (collect (Scope.addPrefix label iri)) fun _ => True :=
  collect_keeps fun _ h => { h with prefixes := setEntry_shaped h.prefixes hiri }

private theorem setBase_keeps (iri : String) : Keeps (collect (Scope.setBase iri)) fun _ => True :=
  collect_keeps fun _ h => { h with }

private theorem prologue_keeps : ∀ bound, Keeps (prologue bound) fun _ => True
  | 0 => Keeps.fail _
  | bound + 1 => by
    have hdeclare : ∀ change : String → Scope → Scope,
        (∀ iri, IsIri iri → Keeps (collect (change iri)) fun _ => True) →
        Keeps (prologueRest change bound) fun _ => True := fun change hchange =>
      (expectIri_keeps _).bind fun iri hiri => (hchange iri hiri).bind fun _ _ => prologue_keeps bound
    refine (atKeyword_keeps _).bind fun _ _ => Keeps.ite (fun _ => ?_) fun _ => ?_
    · exact advance_keeps.bind fun _ _ => hdeclare Scope.setBase fun iri _ => setBase_keeps iri
    · have hlabel : ∀ label, Keeps (prologueRest (Scope.addPrefix label) bound) fun _ => True :=
        fun label => hdeclare _ fun _ hiri => addPrefix_keeps label hiri
      refine (atKeyword_keeps _).bind fun _ _ => Keeps.ite (fun _ => ?_) fun _ => Keeps.pure trivial
      refine advance_keeps.bind fun _ _ => (expect_keeps _ _).bind fun t _ => Keeps.ite (fun _ => ?_) fun _ => ?_
      · exact (Keeps.failAt _ _ (Q := fun _ => True)).bind fun _ _ => hlabel _
      · exact hlabel _

private theorem projections_keeps : ∀ bound, Keeps (projections bound) fun _ => True
  | 0 => Keeps.fail _
  | bound + 1 => by
    have hrest := projections_keeps bound
    refine token_keeps.bind fun _ _ => ?_
    split
    · exact advance_keeps.bind fun _ _ => hrest.bind fun _ _ => Keeps.pure trivial
    · exact skipBrackets_keeps.bind fun _ _ => hrest.bind fun _ _ => Keeps.pure trivial
    · exact Keeps.pure trivial

private theorem selectClause_keeps (bound : Nat) : Keeps (selectClause bound) fun _ => True := by
  refine (expectKeyword_keeps _).bind fun _ _ => (skipKeyword_keeps _).bind fun _ _ => ?_
  refine (atSymbol_keeps _).bind fun _ _ => Keeps.ite (fun _ => ?_) fun _ => ?_
  · exact advance_keeps.bind fun _ _ => Keeps.pure trivial
  · refine (projections_keeps bound).bind fun _ _ => ?_
    exact Keeps.ite (fun _ => Keeps.fail _) fun _ => Keeps.pure trivial

private theorem datasets_keeps : ∀ bound, Keeps (datasets bound) fun _ => True
  | 0 => Keeps.fail _
  | bound + 1 => by
    have hrest := datasets_keeps bound
    refine (atKeyword_keeps _).bind fun _ _ => Keeps.ite (fun _ => ?_) fun _ => Keeps.pure trivial
    refine advance_keeps.bind fun _ _ => (skipKeyword_keeps _).bind fun _ _ => Keeps.peek fun s hs => ?_
    split
    next hkind =>
      exact KeepsAt.take hs ((resolveName_keeps hs.token hkind).bind fun _ _ => hrest)
    · exact (expectIri_keeps _).bind (fun _ _ => hrest) s hs

private theorem skipCondition_keeps : ∀ bound, Keeps (skipCondition bound) fun _ => True
  | 0 => Keeps.fail _
  | bound + 1 => by
    have hrest : Keeps (do return (← skipCondition bound) + 1) fun _ => True :=
      (skipCondition_keeps bound).bind fun _ _ => Keeps.pure trivial
    refine token_keeps.bind fun _ _ => Keeps.ite (fun _ => Keeps.pure trivial) fun _ => ?_
    refine Keeps.ite (fun _ => skipBrackets_keeps.bind fun _ _ => hrest) fun _ => ?_
    exact advance_keeps.bind fun _ _ => hrest

private theorem condition_keeps (bound : Nat) : Keeps (condition bound) fun _ => True :=
  (skipCondition_keeps bound).bind fun _ _ => Keeps.ite (fun _ => Keeps.fail _) fun _ => Keeps.pure trivial

private theorem modifiers_keeps : ∀ bound, Keeps (modifiers bound) fun _ => True
  | 0 => Keeps.fail _
  | bound + 1 => by
    have hrest := modifiers_keeps bound
    refine token_keeps.bind fun t _ => Keeps.ite (fun _ => Keeps.pure trivial) fun _ => Keeps.ite (fun _ => ?_) fun _ => ?_
    · exact advance_keeps.bind fun _ _ => (expect_keeps _ _).bind fun _ _ => hrest
    refine Keeps.ite (fun _ => ?_) fun _ => Keeps.ite (fun _ => ?_) fun _ => ?_
    · refine advance_keeps.bind fun _ _ => (expectKeyword_keeps _).bind fun _ _ => ?_
      exact (condition_keeps bound).bind fun _ _ => hrest
    · exact advance_keeps.bind fun _ _ => (condition_keeps bound).bind fun _ _ => hrest
    · exact (Keeps.fail _ (Q := fun _ => True)).bind fun _ _ => hrest

private theorem query_keeps (bound : Nat) : Keeps (query bound) fun _ => True :=
  (prologue_keeps bound).bind fun _ _ => (selectClause_keeps bound).bind fun _ _ => (datasets_keeps bound).bind fun _ _ =>
    (skipKeyword_keeps _).bind fun _ _ => (group_keeps bound).bind fun _ _ => (modifiers_keeps bound).bind fun _ _ =>
      (expect_keeps _ _).bind fun _ _ => Keeps.pure trivial

/-- A scope that comes of reading a text holds terms that a query can be written with. -/
theorem parse_shaped {text : List Char} {scope : Scope} (h : parse text = .ok scope) : ScopeShape scope := by
  have hempty : ScopeShape {} := ⟨by simp, by simp, by simp, by simp, by simp, Int.le_refl 0, rfl⟩
  unfold parse parseInto at h
  cases htokens : tokens text with
  | error e => rw [htokens] at h; cases h
  | ok ts =>
    simp only [htokens, parseTokens] at h
    generalize hstart : ({ ahead := ts, last := .eof text.length, scope := {} } : State) = start at h
    have hsound : Sound start := by
      subst hstart
      exact ⟨tokens_shaped htokens, trivial, hempty⟩
    cases hrun : query (ts.length + 2) start with
    | mk result after =>
      rw [hrun] at h
      cases result with
      | error e => cases h
      | ok u =>
        cases h
        exact (query_keeps _ start hsound _ after hrun).1.scope

end PointOfFocus.Query
