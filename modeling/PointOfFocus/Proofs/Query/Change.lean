import PointOfFocus.Proofs.Query.Occurrence

/-!
# Two readings side by side

The parser looks at the kind of every token, but the name of a variable only passes through it: nothing depends on it
except whether it is the name of the focus. Nor does anything but the offset of a fault depend on where a token stands,
or on the terms of the pattern under construction. So if the names, the offsets or those terms are changed, the reading
changes accordingly: it succeeds or fails as before, and its patterns are the changed ones (`Change.reading_map`).

The two readings are followed step by step. `Follows` relates one step from a state to another step from the changed
state, and every production follows itself.
-/

namespace PointOfFocus.Query

open PointOfFocus.Rdf
open Phrase (madeUp)

/-- The name of a variable that the parser puts into patterns of its own accord. -/
def IsOwn (x : String) : Prop := x = "POF" ∨ x = "FillVar" ∨ ∃ n : Nat, x = "_anon" ++ n.repr

/-- A change of tokens and of the terms that stand in the patterns. -/
structure Change where
  token : Token → Token
  term : Role → Term → Term
  kind : ∀ t, (token t).kind = t.kind
  text : ∀ t, t.kind ≠ .var → (token t).text = t.text
  name : ∀ role t, t.kind = .var → term role (.var (dropFirst 1 t.text)) = .var (dropFirst 1 (token t).text)
  focus : ∀ t, t.kind = .var → (dropFirst 1 (token t).text = "POF" ↔ dropFirst 1 t.text = "POF")
  own : ∀ role x, IsOwn x → term role (.var x) = .var x
  /-- A term that is no variable stays; a blank node is never a predicate. -/
  other : ∀ role t, NotVar t → (role = .predicate → ∀ label, t ≠ .blank label) → term role t = t

namespace Change

variable (c : Change)

def pattern (p : Pattern) : Pattern :=
  { p with
    subject := c.term .subject p.subject
    predicate := c.term .predicate p.predicate
    object := c.term .object p.object }

def cursor (k : Cursor) : Cursor where
  subject := k.subject.map (c.term .subject)
  predicate := k.predicate.map (c.term .predicate)
  object := k.object.map (c.term .object)

def scope (s : Scope) : Scope := { s with patterns := s.patterns.map c.pattern, current := c.cursor s.current }

def state (s : State) : State :=
  { s with
    ahead := s.ahead.map c.token
    last := c.token s.last
    focus := s.focus.map fun m => { m with token := c.token m.token }
    scope := c.scope s.scope }

@[simp]
private theorem state_token (s : State) : (c.state s).token = c.token s.token := by
  simp only [State.token, state]
  cases s.ahead <;> rfl

@[simp]
private theorem state_next (s : State) : (c.state s).next = c.token s.next := by
  simp only [State.next, state]
  rcases s.ahead with _ | ⟨_, _ | _⟩ <;> rfl

private theorem state_advance (s : State) :
    { c.state s with ahead := (c.state s).ahead.tail } = c.state { s with ahead := s.ahead.tail } := by
  simp only [state, List.map_tail]

@[simp]
private theorem isKeyword (t : Token) (words : List String) : (c.token t).isKeyword words = t.isKeyword words := by
  unfold Token.isKeyword
  rw [c.kind]
  by_cases hword : t.kind = .word
  · rw [c.text t (by simp [hword])]
  · simp [hword]

@[simp]
private theorem isTruth (t : Token) : (c.token t).isTruth = t.isTruth := by
  unfold Token.isTruth
  rw [c.kind]
  by_cases hword : t.kind = .word
  · rw [c.text t (by simp [hword])]
  · simp [hword]

@[simp]
private theorem startsObject (t : Token) : (c.token t).startsObject = t.startsObject := by
  simp only [Token.startsObject, c.kind, c.isTruth]

@[simp]
theorem startsVerb (t : Token) : (c.token t).startsVerb = t.startsVerb := by
  unfold Token.startsVerb
  rw [c.kind]
  by_cases hword : t.kind = .word
  · rw [c.text t (by simp [hword])]
  · split <;> first | rfl | exact absurd ‹_› hword

@[simp]
theorem endsTriples (t : Token) : (c.token t).endsTriples = t.endsTriples := by
  simp only [Token.endsTriples, c.kind, c.isKeyword]

@[simp]
private theorem closing? (t : Token) : (c.token t).closing? = t.closing? := by
  simp only [Token.closing?, c.kind]

@[simp]
private theorem isRepetition (t : Token) : (c.token t).isRepetition = t.isRepetition := by
  simp only [Token.isRepetition, c.kind]

@[simp]
private theorem isFunctionName (t : Token) : (c.token t).isFunctionName = t.isFunctionName := by
  simp only [Token.isFunctionName, c.kind]

private theorem term_iri (role : Role) (iri : String) : c.term role (.iri iri) = .iri iri :=
  c.other role _ (by simp [NotVar]) (by simp)

private theorem term_madeUp (role : Role) (n : Nat) : c.term role (madeUp n) = madeUp n :=
  c.own role _ (.inr (.inr ⟨n, rfl⟩))

end Change

/-! ### Following a step -/

variable {c : Change}

/-- The second step does from the changed state what the first one does from the state: it succeeds with a related
result in the changed state, or it fails as well. -/
structure Follows {α β : Type} (c : Change) (s : State) (m : Parser α) (m' : Parser β) (R : α → β → Prop) : Prop where
  run : match m s with
    | (.ok a, after) => ∃ b, m' (c.state s) = (.ok b, c.state after) ∧ R a b
    | (.error _, _) => ∃ e after, m' (c.state s) = (.error e, after)

section

variable {α β γ δ : Type} {s : State} {R : α → β → Prop} {R' : γ → δ → Prop}

/-- Two steps of which the results are known. -/
private theorem Follows.of_ok {m : Parser α} {m' : Parser β} {a : α} {b : β} {after : State} (hm : m s = (.ok a, after))
    (hm' : m' (c.state s) = (.ok b, c.state after)) (h : R a b) : Follows c s m m' R := by
  constructor
  rw [hm]
  exact ⟨b, hm', h⟩

/-- Two steps that stop with a fault. -/
private theorem Follows.of_error {m : Parser α} {m' : Parser β} {e e' : Error} {after after' : State}
    (hm : m s = (.error e, after)) (hm' : m' (c.state s) = (.error e', after')) : Follows c s m m' R := by
  constructor
  rw [hm]
  exact ⟨e', after', hm'⟩

/-- A reading follows another through two steps, one after the other. -/
theorem Follows.bind {m : Parser α} {m' : Parser β} {f : α → Parser γ} {f' : β → Parser δ} (hm : Follows c s m m' R)
    (hf : ∀ a b middle, R a b → Follows c middle (f a) (f' b) R') : Follows c s (m >>= f) (m' >>= f') R' := by
  obtain ⟨hm⟩ := hm
  constructor
  rw [bind_apply, bind_apply]
  rcases hrun : m s with ⟨e | a, middle⟩
  · rw [hrun] at hm
    obtain ⟨e', after, hrun'⟩ := hm
    rw [hrun']
    exact ⟨e', after, rfl⟩
  · rw [hrun] at hm
    obtain ⟨b, hrun', hab⟩ := hm
    rw [hrun']
    exact (hf a b middle hab).run

private theorem Follows.mono {Q : α → β → Prop} {m : Parser α} {m' : Parser β} (hm : Follows c s m m' R)
    (h : ∀ a b, R a b → Q a b) : Follows c s m m' Q := by
  obtain ⟨hm⟩ := hm
  split at hm
  next a after hrun =>
    obtain ⟨b, hrun', hab⟩ := hm
    exact .of_ok hrun hrun' (h a b hab)
  next e after hrun =>
    obtain ⟨e', after', hrun'⟩ := hm
    exact .of_error hrun hrun'

/-- Two steps of which the results are known, and what is done after them. -/
private theorem Follows.step {m : Parser α} {m' : Parser β} {f : α → Parser γ} {f' : β → Parser δ} {a : α} {b : β}
    {middle : State} (hm : m s = (.ok a, middle)) (hm' : m' (c.state s) = (.ok b, c.state middle))
    (hf : Follows c middle (f a) (f' b) R') : Follows c s (m >>= f) (m' >>= f') R' := by
  constructor
  rw [bind_apply, bind_apply, hm, hm']
  exact hf.run

theorem Follows.pure {a : α} {b : β} (h : R a b) : Follows c s (Pure.pure a : Parser α) (Pure.pure b : Parser β) R :=
  .of_ok rfl rfl h

private theorem Follows.throw (e e' : Error) : Follows c s (throw e : Parser α) (throw e' : Parser β) R :=
  .of_error rfl rfl

private theorem Follows.failAt (t t' : Token) (cause cause' : Cause) :
    Follows c s (Query.failAt t cause : Parser α) (Query.failAt t' cause' : Parser β) R := .of_error rfl rfl

private theorem Follows.fail (cause cause' : Cause) :
    Follows c s (Query.fail cause : Parser α) (Query.fail cause' : Parser β) R := .of_error rfl rfl

private theorem Follows.failAt_bind {f : α → Parser γ} {f' : β → Parser δ} (t t' : Token) (cause cause' : Cause) :
    Follows c s (Query.failAt t cause >>= f) (Query.failAt t' cause' >>= f') R' := .of_error rfl rfl

theorem Follows.fail_bind {f : α → Parser γ} {f' : β → Parser δ} (cause cause' : Cause) :
    Follows c s (Query.fail cause >>= f) (Query.fail cause' >>= f') R' := .of_error rfl rfl

/-- A reading follows another through a branch if both take the same one. -/
theorem Follows.ite {p q : Prop} [Decidable p] [Decidable q] {m n : Parser α} {m' n' : Parser β} (hpq : q ↔ p)
    (hm : p → Follows c s m m' R) (hn : ¬p → Follows c s n n' R) :
    Follows c s (if p then m else n) (if q then m' else n') R := by
  by_cases hp : p
  · rw [if_pos hp, if_pos (hpq.2 hp)]
    exact hm hp
  · rw [if_neg hp, if_neg fun hq => hp (hpq.1 hq)]
    exact hn hp

private theorem Follows.nested {m : Parser α} {m' : Parser β}
    (h : Follows c { s with scope := { s.scope with current := {} } } m m' R) :
    Follows c s (nested m) (nested m') R := by
  obtain ⟨h⟩ := h
  constructor
  rw [nested_apply, nested_apply]
  have hempty : c.state { s with scope := { s.scope with current := {} } } =
      { c.state s with scope := { (c.state s).scope with current := {} } } := rfl
  rw [hempty] at h
  split at h
  next a after hrun =>
    obtain ⟨b, hrun', hab⟩ := h
    rw [hrun, hrun']
    exact ⟨b, rfl, hab⟩
  next e after hrun =>
    obtain ⟨e', after', hrun'⟩ := h
    rw [hrun, hrun']
    exact ⟨e', _, rfl⟩

/-! ### Looking at tokens and taking them -/

theorem Follows.token {f f' : Token → Parser γ} {R' : γ → γ → Prop}
    (h : Follows c s (f s.token) (f' (c.token s.token)) R') : Follows c s (token >>= f) (token >>= f') R' :=
  .step (token_apply s) (by rw [token_apply, c.state_token]) h

private theorem Follows.advance {f : Token → Parser γ} {f' : Token → Parser δ}
    (h : Follows c { s with ahead := s.ahead.tail } (f s.token) (f' (c.token s.token)) R') :
    Follows c s (advance >>= f) (advance >>= f') R' :=
  .step (advance_apply s) (by rw [advance_apply, c.state_token, c.state_advance]) h

private theorem Follows.get {f f' : State → Parser γ} {R' : γ → γ → Prop}
    (h : Follows c s (f s) (f' (c.state s)) R') : Follows c s (get >>= f) (get >>= f') R' :=
  .step (get_apply s) (get_apply _) h

theorem Follows.atSymbol {x : Symbol} {f f' : Bool → Parser γ} {R' : γ → γ → Prop}
    (h : Follows c s (f (decide (s.token.kind = .symbol x))) (f' (decide (s.token.kind = .symbol x))) R') :
    Follows c s (atSymbol x >>= f) (atSymbol x >>= f') R' :=
  .step (atSymbol_apply x s) (by rw [atSymbol_apply, c.state_token, c.kind]) h

private theorem Follows.atKeyword {words : List String} {f f' : Bool → Parser γ} {R' : γ → γ → Prop}
    (h : Follows c s (f (s.token.isKeyword words)) (f' (s.token.isKeyword words)) R') :
    Follows c s (atKeyword words >>= f) (atKeyword words >>= f') R' :=
  .step (atKeyword_apply words s) (by rw [atKeyword_apply, c.state_token, c.isKeyword]) h

private theorem Follows.collect {change change' : Scope → Scope} {f f' : Unit → Parser γ} {R' : γ → γ → Prop}
    (hchange : ∀ scope, change' (c.scope scope) = c.scope (change scope))
    (h : Follows c { s with scope := change s.scope } (f ()) (f' ()) R') :
    Follows c s (collect change >>= f) (collect change' >>= f') R' := by
  refine .step (collect_apply change s) ?_ h
  rw [collect_apply]
  exact congrArg (fun scope => (Except.ok (), { c.state s with scope })) (hchange s.scope)

end

/-- Steps after which only the state matters. -/
abbrev AnyPair {α β : Type} : α → β → Prop := fun _ _ => True

private theorem advance_follows (s : State) : Follows c s advance advance fun t t' => t = s.token ∧ t' = c.token t :=
  .of_ok (advance_apply s) (by rw [advance_apply, c.state_token, c.state_advance]) ⟨rfl, rfl⟩

theorem expect_follows (kind : Kind) (what : String) (s : State) :
    Follows c s (expect kind what) (expect kind what) fun t t' => t' = c.token t ∧ t.kind = kind := by
  refine .token (.ite (by rw [c.kind]) (fun hkind => ?_) fun _ => .token (.fail _ _))
  exact (advance_follows s).mono fun t t' ⟨ht, ht'⟩ => ⟨ht', ht ▸ hkind⟩

private theorem expectSymbol_follows (x : Symbol) (s : State) :
    Follows c s (expectSymbol x) (expectSymbol x) fun t t' => t' = c.token t :=
  (expect_follows _ _ s).mono fun _ _ h => h.1

private theorem expectKeyword_follows (word : String) (s : State) :
    Follows c s (expectKeyword word) (expectKeyword word) AnyPair :=
  .atKeyword (.ite Iff.rfl (fun _ => (advance_follows s).mono fun _ _ _ => trivial) fun _ => .token (.fail _ _))

private theorem skipKeyword_follows (words : List String) (s : State) :
    Follows c s (skipKeyword words) (skipKeyword words) AnyPair :=
  .atKeyword (.ite Iff.rfl (fun _ => .advance (.pure trivial)) fun _ => .pure trivial)

private theorem freshVariable_follows (s : State) :
    Follows c s freshVariable freshVariable fun t t' => t' = t ∧ ∀ role, c.term role t = t :=
  .of_ok rfl rfl ⟨rfl, fun role => c.term_madeUp role _⟩

theorem skipSemicolons_follows (s : State) : Follows c s skipSemicolons skipSemicolons AnyPair := by
  have hdrop : (s.ahead.map c.token).dropWhile (·.kind = .symbol .semicolon) =
      (s.ahead.dropWhile (·.kind = .symbol .semicolon)).map c.token := by
    rw [List.dropWhile_map]
    simp only [Function.comp_def, c.kind]
  have hrun : skipSemicolons (c.state s) = (.ok (), c.state { s with
      ahead := s.ahead.dropWhile (·.kind = .symbol .semicolon) }) := by
    simp only [Change.state, ← hdrop]
    rfl
  exact .of_ok rfl hrun trivial

private theorem afterBrackets_follows (opening opening' : Token) (awaited : List Symbol) (ts : List Token) :
    match afterBrackets opening awaited ts with
    | .ok rest => afterBrackets opening' awaited (ts.map c.token) = .ok (rest.map c.token)
    | .error _ => ∃ e, afterBrackets opening' awaited (ts.map c.token) = .error e := by
  fun_induction afterBrackets opening awaited ts with
  | case1 rest => simp [afterBrackets]
  | case2 => exact ⟨_, rfl⟩
  | case3 awaited outer t rest x hkind closing hclosing ih =>
    simpa only [List.map_cons, afterBrackets, c.kind, hkind, hclosing] using ih
  | case4 awaited outer t rest hkind hclosing ih =>
    simpa only [List.map_cons, afterBrackets, c.kind, hkind, hclosing, ↓reduceIte] using ih
  | case5 awaited outer t rest x hkind hclosing hne hclose =>
    simp [afterBrackets, c.kind, hkind, hclosing, hne, hclose]
  | case6 awaited outer t rest x hkind hclosing hne hclose ih =>
    simpa only [List.map_cons, afterBrackets, c.kind, hkind, hclosing, hne, hclose, Bool.false_eq_true,
      ↓reduceIte] using ih
  | case7 awaited outer t rest hkind ih =>
    cases hsame : t.kind with
    | symbol x => exact absurd hsame (hkind x)
    | _ => simpa only [List.map_cons, afterBrackets, c.kind, hsame] using ih

private theorem skipBrackets_follows (s : State) : Follows c s skipBrackets skipBrackets AnyPair := by
  refine .advance (.get ?_)
  have hrest := afterBrackets_follows (c := c) s.token (c.token s.token) s.token.closing?.toList s.ahead.tail
  rw [c.closing?]
  dsimp only [Change.state]
  rcases hread : afterBrackets s.token s.token.closing?.toList s.ahead.tail with e | rest
  · rw [hread] at hrest
    obtain ⟨e', herror'⟩ := hrest
    rw [herror']
    exact .of_error rfl rfl
  · rw [hread] at hrest
    rw [hrest]
    exact .of_ok rfl rfl trivial

private theorem skipBracket_follows (x : Symbol) (cause : Cause) (s : State) :
    Follows c s (skipBracket x cause) (skipBracket x cause) AnyPair :=
  .atSymbol (.ite Iff.rfl (fun _ => skipBrackets_follows s) fun _ => .fail _ _)

/-! ### Names, literals and the point of focus -/

private theorem resolve_follows (label : String) (t t' : Token) (s : State) :
    Follows c s (resolve label t) (resolve label t') Eq := by
  refine .get ?_
  have hsame : (c.state s).scope.prefixIri? label = s.scope.prefixIri? label := rfl
  rw [hsame]
  cases s.scope.prefixIri? label with
  | none => exact .failAt _ _ _ _
  | some iri => exact .pure rfl

private theorem resolveName_follows {t : Token} (h : t.kind ≠ .var) (s : State) :
    Follows c s (resolveName t) (resolveName (c.token t)) Eq := by
  unfold resolveName
  rw [c.text t h]
  refine (resolve_follows _ _ _ s).bind fun iri iri' middle hiri => ?_
  subst hiri
  exact .pure rfl

private theorem expectIri_follows (what : String) (s : State) : Follows c s (expectIri what) (expectIri what) Eq := by
  refine (expect_follows _ _ s).bind fun t t' middle ⟨ht, hkind⟩ => ?_
  rw [ht, c.text t (by simp [hkind])]
  exact .pure rfl

private theorem datatypeIri_follows (s : State) : Follows c s datatypeIri datatypeIri Eq := by
  refine .token ?_
  rw [c.kind]
  have htext := c.text s.token
  have hname := resolveName_follows (c := c) (t := s.token)
  cases hkind : s.token.kind with
  | iri =>
    refine .advance ?_
    rw [htext (by simp [hkind])]
    exact .pure rfl
  | prefixedName => exact .advance (hname (by simp [hkind]) _)
  | _ => exact .fail _ _

private theorem textLiteral_follows {s : State} (h : s.token.kind ≠ .var) : Follows c s textLiteral textLiteral Eq := by
  refine .advance ?_
  rw [c.text _ h]
  cases quotedText s.token.text with
  | error e => exact .throw _ _
  | ok lexical =>
    refine .token ?_
    rw [c.kind]
    generalize hmiddle : { s with ahead := s.ahead.tail } = middle
    have htext := c.text middle.token
    cases hkind : middle.token.kind with
    | language =>
      refine .advance ?_
      rw [htext (by simp [hkind])]
      exact .pure rfl
    | datatypeMark =>
      refine .advance ((datatypeIri_follows _).bind fun iri iri' _ hiri => ?_)
      subst hiri
      exact .pure rfl
    | _ => exact .pure rfl

private theorem unsignedNumber_follows (sign : String) (s : State) :
    Follows c s (unsignedNumber sign) (unsignedNumber sign) Eq := by
  refine .token ?_
  rw [c.kind]
  cases htype : numberType? s.token.kind with
  | none => exact .fail _ _
  | some type =>
    have hkind : s.token.kind ≠ .var := by
      intro hvar
      rw [hvar] at htype
      cases htype
    refine .advance ?_
    rw [c.text _ hkind]
    exact .pure rfl

private theorem number_follows (s : State) : Follows c s number number Eq := by
  refine .atSymbol (.atSymbol (.ite Iff.rfl (fun hsign => .advance ?_) fun _ => unsignedNumber_follows _ s))
  have hkind : s.token.kind ≠ .var := by
    intro hvar
    simp [hvar] at hsign
  rw [c.text _ hkind]
  exact unsignedNumber_follows _ _

private theorem pointOfFocus_follows (role : Role) (s : State) :
    Follows c s (pointOfFocus role) (pointOfFocus role) fun t t' => t = .focus ∧ t' = .focus := by
  refine .advance (.get (.ite ?_ (fun _ => .failAt_bind _ _ _ _) fun _ => ?_))
  · simp [Change.state]
  refine .step (modify_apply _ _) (modify_apply _ _) ?_
  dsimp only
  rw [c.kind]
  cases s.token.kind with
  | focus hint =>
    cases hint with
    | none => exact .pure ⟨rfl, rfl⟩
    | keyword word =>
      refine .collect (fun scope => ?_) (.pure ⟨rfl, rfl⟩)
      unfold Scope.setKeyword
      split <;> rfl
    | nameStart label part =>
      refine (resolve_follows _ _ _ _).bind fun iri iri' middle hiri => ?_
      subst hiri
      exact .collect (fun _ => rfl) (.pure ⟨rfl, rfl⟩)
    | pathLength length =>
      refine .ite Iff.rfl (fun _ => .failAt_bind _ _ _ _) fun _ => ?_
      refine .ite Iff.rfl (fun _ => .failAt_bind _ _ _ _) fun _ => ?_
      exact .collect (fun _ => rfl) (.pure ⟨rfl, rfl⟩)
  | _ => exact .pure ⟨rfl, rfl⟩

private theorem simpleTerm_follows {role : Role} (hrole : role ≠ .predicate) (s : State) :
    Follows c s (simpleTerm role) (simpleTerm role) fun t t' => t' = c.term role t := by
  have hother : ∀ t, NotVar t → t = c.term role t := fun t ht =>
    (c.other role t ht fun hpredicate => absurd hpredicate hrole).symm
  have htext := c.text s.token
  have hname := c.name role s.token
  have hresolve := resolveName_follows (c := c) (t := s.token)
  have hfocus : c.term role .focus = .focus := c.own role _ (.inl rfl)
  have hnumber : Follows c s (do return .literal (← number)) (do return .literal (← number))
      fun t t' => t' = c.term role t := by
    refine (number_follows s).bind fun l l' _ hl => ?_
    subst hl
    exact .pure (hother _ (by simp [NotVar]))
  have hword : Follows c s
      (if s.token.isTruth then do
        let word := String.ofList ((← advance).text.toList.map Char.toLower)
        return .literal (.typed word (datatype "boolean"))
      else fail (.expected ("a " ++ role.text) s.token))
      (if (c.token s.token).isTruth then do
        let word := String.ofList ((← advance).text.toList.map Char.toLower)
        return .literal (.typed word (datatype "boolean"))
      else fail (.expected ("a " ++ role.text) (c.token s.token))) fun t t' => t' = c.term role t := by
    refine .ite (by rw [c.isTruth]) (fun htruth => .advance ?_) fun _ => .fail _ _
    have hkind : s.token.kind ≠ .var := by
      intro hvar
      simp [Token.isTruth, hvar] at htruth
    rw [htext hkind]
    exact .pure (hother _ (by simp [NotVar]))
  -- Both sides take the same branch, because the kind stays; only a variable is read as another term.
  refine .token ?_
  rw [c.kind]
  cases hkind : s.token.kind with
  | focus hint =>
    refine (pointOfFocus_follows role s).mono fun t t' ht => ?_
    rw [ht.1, ht.2, hfocus]
  | var => exact .advance (.pure (hname hkind).symm)
  | iri =>
    refine .advance ?_
    rw [htext (by simp [hkind])]
    exact .pure (hother _ (by simp [NotVar]))
  | prefixedName =>
    refine .advance ((hresolve (by simp [hkind]) _).bind fun iri iri' _ hiri => ?_)
    subst hiri
    exact .pure (hother _ (by simp [NotVar]))
  | blank =>
    refine .advance ?_
    rw [htext (by simp [hkind])]
    exact .pure (hother _ (by simp [NotVar]))
  | string =>
    have hliteral : Follows c s textLiteral textLiteral Eq := textLiteral_follows (by simp [hkind])
    refine hliteral.bind fun l l' _ hl => ?_
    subst hl
    exact .pure (hother _ (by simp [NotVar]))
  | integer => exact hnumber
  | decimal => exact hnumber
  | double => exact hnumber
  | symbol x =>
    cases x with
    | plus => exact hnumber
    | minus => exact hnumber
    | _ => exact hword
  | _ => exact hword

/-! ### Verbs -/

/-- The same term on both sides, which is a predicate that no change touches. -/
def SamePath (t t' : Term) : Prop := t' = t ∧ NotVar t ∧ ∀ label, t ≠ .blank label

private theorem SamePath.term {t t' : Term} (h : SamePath t t') : t' = c.term .predicate t := by
  obtain ⟨rfl, hvar, hblank⟩ := h
  exact (c.other .predicate t' hvar fun _ => hblank).symm

private theorem samePath_iri (iri : String) : SamePath (.iri iri) (.iri iri) := ⟨rfl, by simp [NotVar], by simp⟩

private theorem separated_follows {α : Type} {x : Symbol} {item : Parser α} {R : α → α → Prop}
    (hR : ∀ a b, R a b → b = a) (h : ∀ s, Follows c s item item R) :
    ∀ bound s, Follows c s (separated x item bound) (separated x item bound) Eq
  | 0, _ => .fail _ _
  | bound + 1, s => by
    refine .atSymbol (.ite Iff.rfl (fun _ => .advance ?_) fun _ => .pure rfl)
    refine (h _).bind fun first first' _ hfirst => (separated_follows hR h bound _).bind fun rest rest' _ hrest => ?_
    rw [hR _ _ hfirst, hrest]
    exact .pure rfl

private theorem pathPrimary_follows {inner : Parser Term} (h : ∀ s, Follows c s inner inner SamePath) (s : State) :
    Follows c s (pathPrimary inner) (pathPrimary inner) SamePath := by
  have htext := c.text s.token
  have hresolve := resolveName_follows (c := c) (t := s.token)
  refine .token ?_
  rw [c.kind]
  cases hkind : s.token.kind with
  | iri =>
    refine .advance ?_
    rw [htext (by simp [hkind])]
    exact .pure (samePath_iri _)
  | prefixedName =>
    refine .advance ((hresolve (by simp [hkind]) _).bind fun iri iri' _ hiri => ?_)
    subst hiri
    exact .pure (samePath_iri _)
  | symbol x =>
    cases x with
    | openParen =>
      refine .advance ((h _).bind fun path path' _ hpath => ?_)
      exact (expectSymbol_follows _ _).bind fun _ _ _ _ => .pure hpath
    | bang => exact .fail _ _
    | _ => exact .fail _ _
  | word =>
    rw [htext (by simp [hkind])]
    exact .ite Iff.rfl (fun _ => .advance (.pure (samePath_iri _))) fun _ => .fail _ _
  | _ => exact .fail _ _

private theorem pathStepRest_follows {inner : Parser Term} (h : ∀ s, Follows c s inner inner SamePath) (inverse : Bool)
    (s : State) : Follows c s (pathStepRest inner inverse) (pathStepRest inner inverse) SamePath := by
  refine (pathPrimary_follows h s).bind fun path path' _ hpath => .token ?_
  refine .ite (by rw [c.isRepetition]) (fun _ => .fail_bind _ _) fun _ => .pure ?_
  cases inverse with
  | false => exact hpath
  | true => exact ⟨congrArg Term.inverse hpath.1, by simp [NotVar], by simp⟩

private theorem pathStep_follows {inner : Parser Term} (h : ∀ s, Follows c s inner inner SamePath) (s : State) :
    Follows c s (pathStep inner) (pathStep inner) SamePath := by
  have hrest := pathStepRest_follows h
  rw [pathStep_eq]
  exact .atSymbol (.ite Iff.rfl (fun _ => .advance (hrest _ _)) fun _ => hrest _ _)

private theorem pathSequence_follows {inner : Parser Term} (h : ∀ s, Follows c s inner inner SamePath) (bound : Nat)
    (s : State) : Follows c s (pathSequence bound inner) (pathSequence bound inner) SamePath := by
  refine (pathStep_follows h s).bind fun first first' _ hfirst => ?_
  refine (separated_follows (fun _ _ hstep => hstep.1) (pathStep_follows h) bound _).bind fun rest rest' _ hrest => ?_
  subst hrest
  cases rest with
  | nil => exact .pure hfirst
  | cons second rest =>
    rw [hfirst.1]
    exact .pure ⟨rfl, by simp [NotVar, Term.sequenceOf], by simp [Term.sequenceOf]⟩

private theorem path_follows : ∀ bound s, Follows c s (path bound) (path bound) SamePath
  | 0, _ => .fail _ _
  | bound + 1, s => by
    have hitem := pathSequence_follows (path_follows bound) bound
    refine (hitem s).bind fun first first' _ hfirst => ?_
    refine (separated_follows (fun _ _ hstep => hstep.1) hitem bound _).bind fun rest rest' _ hrest => ?_
    subst hrest
    cases rest with
    | nil => exact .pure hfirst
    | cons second rest =>
      rw [hfirst.1]
      exact .pure ⟨rfl, by simp [NotVar, Term.alternativeOf], by simp [Term.alternativeOf]⟩

/-- Whether a predicate is the point of focus decides whether it needs an object, so it must not change. -/
private theorem verb_follows (bound : Nat) (s : State) :
    Follows c s (verb bound) (verb bound) fun t t' => t' = c.term .predicate t ∧ t'.isFocus = t.isFocus := by
  have hpath : Follows c s (path bound) (path bound) fun t t' => t' = c.term .predicate t ∧ t'.isFocus = t.isFocus :=
    (path_follows bound s).mono fun t t' ht => ⟨ht.term, by rw [ht.1]⟩
  have hname := c.name .predicate s.token
  have hfocus := c.focus s.token
  refine .token ?_
  rw [c.kind]
  cases hkind : s.token.kind with
  | focus hint =>
    refine (pointOfFocus_follows .predicate s).mono fun t t' ht => ?_
    rw [ht.1, ht.2]
    exact ⟨(c.own .predicate _ (.inl rfl)).symm, rfl⟩
  | var =>
    refine .advance (.pure ⟨(hname hkind).symm, ?_⟩)
    simp only [Term.isFocus, hfocus hkind]
  | _ => exact hpath

/-! ### Triples -/

private theorem collectPattern_follows (s : State) : Follows c s collectPattern collectPattern AnyPair := by
  refine .get ?_
  have hsame : (c.state s).scope.addPattern = s.scope.addPattern.map c.scope := by
    simp only [Scope.addPattern, Change.state, Change.scope, Change.cursor]
    rcases s.scope.current with ⟨_ | subject, _ | predicate, _ | object⟩ <;>
      simp [Except.map, Change.scope, Change.cursor, Change.pattern]
  rw [hsame]
  cases s.scope.addPattern with
  | error e => exact .throw _ _
  | ok scope => exact .of_ok rfl rfl trivial

private theorem setSubject_changed {t t' : Term} (h : t' = c.term .subject t) (scope : Scope) :
    (c.scope scope).setSubject t' = c.scope (scope.setSubject t) := by rw [h]; rfl

private theorem setPredicate_changed {t t' : Term} (h : t' = c.term .predicate t) (scope : Scope) :
    (c.scope scope).setPredicate t' = c.scope (scope.setPredicate t) := by rw [h]; rfl

private theorem setObject_changed {t t' : Term} (h : t' = c.term .object t) (scope : Scope) :
    (c.scope scope).setObject t' = c.scope (scope.setObject t) := by rw [h]; rfl

section

variable {object : Parser Term} (hobject : ∀ s, Follows c s object object fun t t' => t' = c.term .object t)

include hobject

/-- A list of objects is read alike from the changed tokens. -/
theorem objects_follows : ∀ bound s, Follows c s (objects object bound) (objects object bound) AnyPair
  | 0, _ => .fail _ _
  | bound + 1, s => by
    refine (hobject s).bind fun t t' _ ht => .collect (setObject_changed ht) ?_
    refine (collectPattern_follows _).bind fun _ _ _ _ => .atSymbol (.ite Iff.rfl (fun _ => ?_) fun _ => .pure trivial)
    exact .advance (objects_follows bound _)

private theorem objectList_follows (bound : Nat) {predicate predicate' : Term}
    (h : predicate'.isFocus = predicate.isFocus)
    (s : State) : Follows c s (objectList object bound predicate) (objectList object bound predicate') AnyPair := by
  refine .token (.ite (by rw [c.startsObject]) (fun _ => objects_follows hobject bound s) fun _ => ?_)
  refine .ite (by rw [h]) (fun _ => ?_) fun _ => .token (.fail _ _)
  exact .collect (setObject_changed (c.own _ _ (.inr (.inl rfl))).symm) (collectPattern_follows _)

/-- A property list is read alike from the changed tokens. -/
theorem propertyList_follows : ∀ bound s, Follows c s (propertyList object bound) (propertyList object bound) AnyPair
  | 0, _ => .fail _ _
  | bound + 1, s => by
    refine (verb_follows bound s).bind fun t t' _ ht => .collect (setPredicate_changed ht.1) ?_
    refine (objectList_follows hobject bound ht.2 _).bind fun _ _ _ _ => .atSymbol (.ite Iff.rfl (fun _ => ?_)
      fun _ => ?_)
    · refine (skipSemicolons_follows _).bind fun _ _ _ _ => .token (.ite (by rw [c.startsVerb]) (fun _ => ?_)
        fun _ => ?_)
      · exact propertyList_follows bound _
      · exact .pure trivial
    · exact .pure trivial

private theorem blankNode_follows (bound : Nat) (s : State) :
    Follows c s (blankNode object bound) (blankNode object bound) fun t t' => t' = t ∧ ∀ role, c.term role t = t := by
  refine (expectSymbol_follows _ s).bind fun _ _ _ _ => (freshVariable_follows _).bind fun node node' _ hnode => ?_
  have hinside : ∀ s, Follows c s
      (do
        collect (Scope.setSubject node)
        if !(← token).startsVerb then fail .missingPredicate
        propertyList object bound)
      (do
        collect (Scope.setSubject node')
        if !(← token).startsVerb then fail .missingPredicate
        propertyList object bound) AnyPair := by
    intro s
    refine .collect (setSubject_changed (hnode.1.trans (hnode.2 _).symm)) (.token ?_)
    refine .ite (by rw [c.startsVerb]) (fun _ => .fail_bind _ _) fun _ => propertyList_follows hobject bound _
  refine (Follows.nested (hinside _)).bind fun _ _ _ _ => (expectSymbol_follows _ _).bind fun _ _ _ _ => .pure hnode

private theorem items_follows (opening opening' : Token) : ∀ bound s,
    Follows c s (items object opening bound) (items object opening' bound) fun ts ts' => ts' = ts.map (c.term .object)
  | 0, _ => .fail _ _
  | bound + 1, s => by
    refine .token (.ite (by rw [c.kind]) (fun _ => .advance (.pure rfl)) fun _ => ?_)
    refine .ite (by rw [c.kind]) (fun _ => .failAt _ _ _ _) fun _ => ?_
    refine (hobject s).bind fun t t' _ ht => (items_follows opening opening' bound _).bind fun ts ts' _ hts => ?_
    rw [ht, hts]
    exact .pure rfl

omit hobject in
private theorem freshNodes_follows (f : Term → Term) (ts : List Term) :
    ∀ s, Follows c s (freshNodes ts) (freshNodes (ts.map f))
    fun nodes nodes' => nodes' = nodes ∧ ∀ node ∈ nodes, ∀ role, c.term role node = node := by
  induction ts with
  | nil => exact fun _ => .pure ⟨rfl, by simp⟩
  | cons t ts ih =>
    intro s
    refine (freshVariable_follows s).bind fun node node' _ hnode => (ih _).bind fun nodes nodes' _ hnodes => ?_
    rw [hnode.1, hnodes.1]
    exact .pure ⟨rfl, List.forall_mem_cons.2 ⟨hnode.2, hnodes.2⟩⟩

omit hobject in
private theorem link_follows {subject object object' : Term} (predicate : String)
    (hsubject : c.term .subject subject = subject) (ho : object' = c.term .object object) (s : State) :
    Follows c s (link subject predicate object) (link subject predicate object') AnyPair := by
  refine .collect (setSubject_changed hsubject.symm) (.collect (setPredicate_changed (c.term_iri _ _).symm) ?_)
  exact .collect (setObject_changed ho) (collectPattern_follows _)

omit hobject in
private theorem linkNodes_follows :
    ∀ (nodes ts : List Term) (s : State), (∀ node ∈ nodes, ∀ role, c.term role node = node) →
    Follows c s (linkNodes (nodes.zip ts)) (linkNodes (nodes.zip (ts.map (c.term .object)))) AnyPair
  | [], _, _, _ => .pure trivial
  | _ :: _, [], _, _ => .pure trivial
  | node :: nodes, t :: ts, s, h => by
    obtain ⟨hnode, hnodes⟩ := List.forall_mem_cons.1 h
    refine (link_follows firstIri (hnode _) rfl s).bind fun _ _ _ _ => ?_
    refine (link_follows restIri (hnode _) ?_ _).bind fun _ _ _ _ => linkNodes_follows nodes ts _ hnodes
    rcases nodes with _ | ⟨next, nodes⟩
    · exact (c.term_iri _ _).symm
    · rcases ts with _ | ⟨t', ts⟩
      · exact (c.term_iri _ _).symm
      · exact (hnodes next (by simp) _).symm

private theorem collection_follows (bound : Nat) (s : State) :
    Follows c s (collection object bound) (collection object bound) fun t t' => t' = t ∧ ∀ role, c.term role t = t := by
  refine (expectSymbol_follows _ s).bind fun opening opening' _ _ => ?_
  refine (items_follows hobject opening opening' bound _).bind fun ts ts' _ hts => ?_
  subst hts
  refine (freshNodes_follows _ ts _).bind fun nodes nodes' _ hnodes => ?_
  obtain ⟨rfl, hfixed⟩ := hnodes
  cases nodes' with
  | nil => exact .pure ⟨rfl, fun role => c.term_iri role _⟩
  | cons first rest =>
    refine (Follows.nested (linkNodes_follows _ ts _ hfixed)).bind fun _ _ _ _ => ?_
    exact .pure ⟨rfl, hfixed first (by simp)⟩

end

private theorem graphNode_follows {role : Role} (hrole : role ≠ .predicate) (s : State) :
    Follows c s (graphNode role) (graphNode role) fun t t' => t' = c.term role t := by
  refine .atSymbol (.ite Iff.rfl (fun _ => .advance ?_) fun _ => simpleTerm_follows hrole s)
  refine (expectSymbol_follows _ _).bind fun _ _ _ _ => (freshVariable_follows _).mono fun t t' ht => ?_
  rw [ht.1, ht.2]

private theorem Follows.atBlankNode {γ : Type} {s : State} {f f' : Bool → Parser γ} {R : γ → γ → Prop}
    (h : ∀ isBlank, Follows c s (f isBlank) (f' isBlank) R) :
    Follows c s (atBlankNode >>= f) (atBlankNode >>= f') R := by
  refine .step (atBlankNode_apply s) ?_ (h _)
  rw [atBlankNode_apply, c.state_token, c.state_next, c.kind, c.kind]

/-- An object of the changed tokens is the changed object. -/
theorem object_follows : ∀ bound s, Follows c s (object bound) (object bound) fun t t' => t' = c.term .object t
  | 0, _ => .fail _ _
  | bound + 1, s => by
    have hobject := object_follows bound
    refine .atBlankNode fun _ => .ite Iff.rfl (fun _ => ?_) fun _ => .atSymbol (.ite Iff.rfl (fun _ => ?_) fun _ => ?_)
    · exact (blankNode_follows hobject bound s).mono fun t t' ht => ht.1.trans (ht.2 _).symm
    · exact (collection_follows hobject bound s).mono fun t t' ht => ht.1.trans (ht.2 _).symm
    · exact graphNode_follows (by decide) s

private theorem triplesRest_follows (bound : Nat) (isBlank isCollection : Bool) {subject subject' : Term} (s : State)
    (hsubject : subject' = c.term .subject subject) :
    Follows c s (triplesRest bound isBlank isCollection subject) (triplesRest bound isBlank isCollection subject')
      AnyPair := by
  refine .collect (setSubject_changed hsubject) (.token (.ite (by rw [c.startsVerb]) (fun _ => ?_) fun _ => ?_))
  · exact propertyList_follows (object_follows bound) bound _
  · exact .ite Iff.rfl (fun _ => .token (.fail _ _)) fun _ => .pure trivial

private theorem triples_follows (bound : Nat) (s : State) : Follows c s (triples bound) (triples bound) AnyPair := by
  have hobject := object_follows (c := c) bound
  rw [triples_eq]
  refine .atBlankNode fun isBlank => .atSymbol (.ite Iff.rfl (fun _ => ?_) fun _ => .ite Iff.rfl (fun _ => ?_)
    fun _ => ?_)
  · exact (blankNode_follows hobject bound s).bind fun t t' _ ht =>
      triplesRest_follows bound _ _ _ (ht.1.trans (ht.2 _).symm)
  · exact (collection_follows hobject bound s).bind fun t t' _ ht =>
      triplesRest_follows bound _ _ _ (ht.1.trans (ht.2 _).symm)
  · exact (graphNode_follows (by decide) s).bind fun t t' _ ht => triplesRest_follows bound _ _ _ ht

/-! ### Groups -/

private theorem constraintRest_follows (s : State) : Follows c s constraintRest constraintRest AnyPair := by
  refine .atKeyword (.ite Iff.rfl (fun _ => .advance (skipBracket_follows _ _ _)) fun _ => .token (.get ?_))
  refine .ite (by rw [c.isFunctionName, c.state_next, c.kind]) (fun _ => ?_) fun _ => .fail _ _
  exact .advance (skipBrackets_follows _)

private theorem constraint_follows (s : State) : Follows c s constraint constraint AnyPair := by
  rw [constraint_eq]
  refine .atSymbol (.ite Iff.rfl (fun _ => skipBrackets_follows s)
    fun _ => .atKeyword (.ite Iff.rfl (fun _ => ?_) fun _ => ?_))
  · exact .advance ((expectKeyword_follows _ _).bind fun _ _ _ _ => constraintRest_follows _)
  · exact constraintRest_follows s

private theorem values_follows (s : State) : Follows c s values values AnyPair := by
  refine .token (.ite (by rw [c.kind]) (fun _ => .advance ?_) fun _ => ?_)
  · exact skipBracket_follows _ _ _
  · exact (skipBracket_follows _ _ s).bind fun _ _ _ _ => skipBracket_follows _ _ _

section

variable {inner : Parser Unit} (hinner : ∀ s, Follows c s inner inner AnyPair)

include hinner

private theorem namedGroup_follows (keyword : String) (s : State) :
    Follows c s (namedGroup inner keyword) (namedGroup inner keyword) AnyPair := by
  have hnamed : ∀ s,
      Follows c s (do let _ ← simpleTerm .subject; inner) (do let _ ← simpleTerm .subject; inner) AnyPair :=
    fun s => (simpleTerm_follows (by decide) s).bind fun _ _ _ _ => hinner _
  unfold namedGroup
  refine .ite Iff.rfl (fun _ => (skipKeyword_follows _ s).bind fun _ _ middle _ => .token ?_) fun _ => .token ?_
  all_goals
    rw [c.kind]
    cases State.token _ |>.kind with
    | var => exact hnamed _
    | iri => exact hnamed _
    | prefixedName => exact hnamed _
    | _ => exact .fail _ _

private theorem element_follows {s : State} (h : s.token.kind ≠ .var) :
    Follows c s (element inner) (element inner) AnyPair := by
  refine .advance ?_
  rw [c.text _ h]
  refine .ite Iff.rfl (fun _ => hinner _) fun _ => .ite Iff.rfl (fun _ => namedGroup_follows hinner _ _) fun _ => ?_
  refine .ite Iff.rfl (fun _ => constraint_follows _) fun _ => .ite Iff.rfl (fun _ => ?_) fun _ => values_follows _
  exact skipBracket_follows _ _ _

private theorem unions_follows : ∀ bound s, Follows c s (unions inner bound) (unions inner bound) AnyPair
  | 0, _ => .fail _ _
  | bound + 1, s => by
    refine .atKeyword (.ite Iff.rfl (fun _ => .advance ?_) fun _ => .pure trivial)
    exact (hinner _).bind fun _ _ _ _ => unions_follows bound _

/-- The elements of a group are read alike from the changed tokens. -/
theorem elements_follows (opening opening' : Token) : ∀ bound s,
    Follows c s (elements inner opening bound) (elements inner opening' bound) AnyPair
  | 0, _ => .fail _ _
  | bound + 1, s => by
    have hrest := elements_follows opening opening' bound
    have hother : Follows c s (elementsRest inner opening bound s.token)
        (elementsRest inner opening' bound (c.token s.token)) AnyPair := by
      refine .ite (by rw [c.isKeyword]) (fun hkeyword => ?_) fun _ => ?_
      · -- a keyword is no variable, so its text is unchanged
        have hkind : s.token.kind ≠ .var := by
          intro hvar
          simp [Token.isKeyword, hvar] at hkeyword
        exact (element_follows hinner hkind).bind fun _ _ _ _ => hrest _
      · refine (triples_follows bound s).bind fun _ _ _ _ => .token (.ite (by rw [c.endsTriples]) (fun _ => ?_)
          fun _ => hrest _)
        exact .token (.fail_bind _ _)
    refine .token ?_
    rw [c.kind]
    cases s.token.kind with
    | eof => exact .failAt _ _ _ _
    | symbol x =>
      cases x with
      | closeBrace => exact .advance (.pure trivial)
      | dot => exact .advance (hrest _)
      | openBrace => exact (hinner s).bind fun _ _ _ _ => (unions_follows hinner bound _).bind fun _ _ _ _ => hrest _
      | _ => exact hother
    | _ => exact hother

end

/-- A group is read alike from the changed tokens. -/
theorem group_follows : ∀ bound s, Follows c s (group bound) (group bound) AnyPair
  | 0, _ => .fail _ _
  | bound + 1, s => by
    refine (expectSymbol_follows _ s).bind fun opening opening' _ _ => .atKeyword (.ite Iff.rfl (fun _ => ?_)
      fun _ => ?_)
    · exact .fail_bind _ _
    · exact elements_follows (group_follows bound) opening opening' bound _

/-! ### Queries -/

private theorem prologue_follows : ∀ bound s, Follows c s (prologue bound) (prologue bound) AnyPair
  | 0, _ => .fail _ _
  | bound + 1, s => by
    have hrest := prologue_follows bound
    refine .atKeyword (.ite Iff.rfl (fun _ => .advance ?_) fun _ => .atKeyword (.ite Iff.rfl (fun _ => .advance ?_)
      fun _ => ?_))
    · refine (expectIri_follows _ _).bind fun iri iri' _ hiri => ?_
      subst hiri
      exact .collect (fun _ => rfl) (hrest _)
    · refine (expect_follows _ _ _).bind fun t t' _ ⟨ht, hkind⟩ => ?_
      rw [ht, c.text t (by simp [hkind])]
      refine .ite Iff.rfl (fun _ => .failAt_bind _ _ _ _) fun _ => (expectIri_follows _ _).bind
        fun iri iri' _ hiri => ?_
      subst hiri
      exact .collect (fun _ => rfl) (hrest _)
    · exact .pure trivial

private theorem projections_follows : ∀ bound s, Follows c s (projections bound) (projections bound) Eq
  | 0, _ => .fail _ _
  | bound + 1, s => by
    have hmore : ∀ s, Follows c s (do return (← projections bound) + 1) (do return (← projections bound) + 1) Eq := by
      intro s
      refine (projections_follows bound s).bind fun n n' _ hn => ?_
      subst hn
      exact .pure rfl
    refine .token ?_
    rw [c.kind]
    cases s.token.kind with
    | var => exact .advance (hmore _)
    | symbol x =>
      cases x with
      | openParen => exact (skipBrackets_follows s).bind fun _ _ _ _ => hmore _
      | _ => exact .pure rfl
    | _ => exact .pure rfl

private theorem selectClause_follows (bound : Nat) (s : State) :
    Follows c s (selectClause bound) (selectClause bound) AnyPair := by
  refine (expectKeyword_follows _ s).bind fun _ _ _ _ => (skipKeyword_follows _ _).bind fun _ _ _ _ => ?_
  refine .atSymbol (.ite Iff.rfl (fun _ => .advance (.pure trivial)) fun _ => ?_)
  refine (projections_follows bound _).bind fun n n' _ hn => ?_
  subst hn
  exact .ite Iff.rfl (fun _ => .fail _ _) fun _ => .pure trivial

private theorem datasets_follows : ∀ bound s, Follows c s (datasets bound) (datasets bound) AnyPair
  | 0, _ => .fail _ _
  | bound + 1, s => by
    refine .atKeyword (.ite Iff.rfl (fun _ => .advance ?_) fun _ => .pure trivial)
    refine (skipKeyword_follows _ _).bind fun _ _ middle _ => .token (.ite (by rw [c.kind]) (fun hkind => ?_)
      fun _ => ?_)
    · refine .advance ((resolveName_follows (by simp [hkind]) _).bind fun _ _ _ _ => datasets_follows bound _)
    · exact (expectIri_follows _ _).bind fun _ _ _ _ => datasets_follows bound _

private theorem skipCondition_follows : ∀ bound s, Follows c s (skipCondition bound) (skipCondition bound) Eq
  | 0, _ => .fail _ _
  | bound + 1, s => by
    have hmore : ∀ s,
        Follows c s (do return (← skipCondition bound) + 1) (do return (← skipCondition bound) + 1) Eq := by
      intro s
      refine (skipCondition_follows bound s).bind fun n n' _ hn => ?_
      subst hn
      exact .pure rfl
    refine .token (.ite (by rw [c.kind, c.isKeyword]) (fun _ => .pure rfl) fun _ => ?_)
    refine .ite (by rw [c.closing?]) (fun _ => ?_) fun _ => .advance (hmore _)
    exact (skipBrackets_follows s).bind fun _ _ _ _ => hmore _

private theorem condition_follows (bound : Nat) (s : State) :
    Follows c s (condition bound) (condition bound) AnyPair := by
  refine (skipCondition_follows bound s).bind fun n n' _ hn => ?_
  subst hn
  exact .ite Iff.rfl (fun _ => .fail _ _) fun _ => .pure trivial

/-- Modifiers are read alike from the changed tokens. -/
theorem modifiers_follows : ∀ bound s, Follows c s (modifiers bound) (modifiers bound) AnyPair
  | 0, _ => .fail _ _
  | bound + 1, s => by
    have hrest := modifiers_follows bound
    have hcondition : ∀ s,
        Follows c s (do condition bound; modifiers bound) (do condition bound; modifiers bound) AnyPair :=
      fun s => (condition_follows bound s).bind fun _ _ _ _ => hrest _
    refine .token (.ite (by rw [c.kind]) (fun _ => .pure trivial) fun _ => ?_)
    refine .ite (by rw [c.isKeyword]) (fun _ => .advance ((expect_follows _ _ _).bind fun _ _ _ _ => hrest _))
      fun _ => ?_
    refine .ite (by rw [c.isKeyword]) (fun _ => .advance ?_) fun _ => ?_
    · exact (expectKeyword_follows _ _).bind fun _ _ _ _ => hcondition _
    · exact .ite (by rw [c.isKeyword]) (fun _ => .advance (hcondition _)) fun _ => .fail_bind _ _

private theorem query_follows (bound : Nat) (s : State) : Follows c s (query bound) (query bound) AnyPair := by
  refine (prologue_follows bound s).bind fun _ _ _ _ => (selectClause_follows bound _).bind fun _ _ _ _ => ?_
  refine (datasets_follows bound _).bind fun _ _ _ _ => (skipKeyword_follows _ _).bind fun _ _ _ _ => ?_
  refine (group_follows bound _).bind fun _ _ _ _ => (modifiers_follows bound _).bind fun _ _ _ _ => ?_
  exact (expect_follows _ _ _).bind fun _ _ _ _ => .pure trivial

/-! ### Readings -/

/-- What the tokens of a text of the given length are read as, if they are a query. -/
def reading (ts : List Token) (length : Nat) : Option Scope :=
  match parseTokens {} ts length with
  | (.ok (), scope) => some scope
  | (.error _, _) => none

/-- The scope that a text is read into is that of its tokens. -/
theorem toOption_parse {text : List Char} {ts : List Token} (h : tokens text = .ok ts) :
    (parse text).toOption = reading ts text.length := by
  simp only [parse, parseInto, h, reading]
  rcases parseTokens {} ts text.length with ⟨_ | _, _⟩ <;> rfl

/-- The reading of the changed tokens is the changed reading. -/
theorem Change.reading_map (c : Change) (ts : List Token) (length : Nat) {length' : Nat}
    (hlast : c.token (.eof length) = .eof length') :
    reading (ts.map c.token) length' = (reading ts length).map c.scope := by
  have hfollows := (query_follows (c := c) (ts.length + 2) { ahead := ts, last := .eof length, scope := {} }).run
  have hstart : c.state { ahead := ts, last := .eof length, scope := {} } =
      { ahead := ts.map c.token, last := .eof length', scope := {} } := by
    rw [← hlast]
    rfl
  rw [hstart] at hfollows
  unfold reading parseTokens
  rw [List.length_map]
  split at hfollows
  next a after hrun =>
    obtain ⟨b, hrun', -⟩ := hfollows
    rw [hrun, hrun']
    rfl
  next e after hrun =>
    obtain ⟨e', after', hrun'⟩ := hfollows
    rw [hrun, hrun']
    rfl

end PointOfFocus.Query
