import Mathlib.Algebra.Group.Action.Defs
import Mathlib.Algebra.Group.Pi.Basic
import Mathlib.Tactic.Abel
import PointOfFocus.Proofs.Query.Quiet
import PointOfFocus.Proofs.Query.Triples

/-!
# Where a variable comes from

A variable is followed through the parser. If it is neither written among the tokens nor one that the parser makes up, it
can only come from the point of focus: every other variable of this kind stands in no pattern, and the variable of the
focus stands in the place in which the marker was read, once if that is the place of an object (`Accounts`).

The places of a variable are counted. A term that was read is counted in its place before it gets into a pattern, so
that every production has a balance: the patterns that it adds and the term that it gives account for the markers that
it met. A predicate or a subject gets into several patterns, and then it is counted in each of them; this is why the
balance of an object list leaves out the terms that were read before it.

That the point of focus gets into a pattern at all, if it is a predicate, holds whatever is written in the text (`Led`).
-/

namespace PointOfFocus

open PointOfFocus.Rdf

/-- The term in the given place. -/
def Pattern.term (p : Pattern) : Query.Role → Term
  | .subject => p.subject
  | .predicate => p.predicate
  | .object => p.object

namespace Query

open Phrase (madeUp)

/-! ### Places -/

/-- Whether the term is the variable with the name. -/
def isVarNamed (x : String) : Term → Bool
  | .var y => y = x
  | _ => false

/-- How often the variable stands in each place of the patterns. -/
def tally (x : String) (ps : List Pattern) : Role → Nat := fun role => ps.countP fun p => isVarNamed x (p.term role)

/-- The place of a term, counted once if the term is the variable. -/
def place (x : String) (role : Role) (t : Term) : Role → Nat := fun r => if r = role ∧ isVarNamed x t then 1 else 0

variable {x : String}

/-- The test for a variable of a name. -/
theorem isVarNamed_iff {t : Term} : isVarNamed x t = true ↔ t = .var x := by
  cases t <;> simp [isVarNamed]

private theorem isVarNamed_of_notVar {t : Term} (h : NotVar t) : isVarNamed x t = false := by
  cases t with
  | var y => exact absurd rfl (h y)
  | _ => rfl

@[simp]
private theorem tally_nil : tally x [] = 0 := rfl

@[simp]
private theorem tally_append (ps qs : List Pattern) : tally x (ps ++ qs) = tally x ps + tally x qs := by
  funext role
  exact List.countP_append

private theorem tally_cons (p : Pattern) (ps : List Pattern) : tally x (p :: ps) =
    place x .subject p.subject + place x .predicate p.predicate + place x .object p.object + tally x ps := by
  funext role
  cases role <;> simp [tally, place, Pattern.term, List.countP_cons, Nat.add_comm]

private theorem place_eq_zero {t : Term} (h : isVarNamed x t = false) (role : Role) : place x role t = 0 := by
  funext r
  simp [place, h]

private theorem place_object {role : Role} (h : role ≠ .object) (t : Term) : place x role t .object = 0 := by
  simp [place, h.symm]

/-! ### Accounting for the point of focus -/

/-- All places are the given one, and there is only one if it is that of an object. -/
structure InRole (role : Role) (places : Role → Nat) : Prop where
  pos : 1 ≤ places role
  only : ∀ r, r ≠ role → places r = 0
  once : role = .object → places role = 1

/-- The places of the variable between two stages at which the point of focus was met or not. -/
inductive Accounts (x : String) : Option Marker → Option Marker → (Role → Nat) → Prop where
  | same {focus : Option Marker} : Accounts x focus focus 0
  | met {m : Marker} {places : Role → Nat} (hx : x = "POF") (h : InRole m.role places) :
    Accounts x none (some m) places
  | other {m : Marker} (hx : x ≠ "POF") : Accounts x none (some m) 0

private theorem Accounts.trans {first middle last : Option Marker} {places places' : Role → Nat}
    (h : Accounts x first middle places) (h' : Accounts x middle last places') :
    Accounts x first last (places + places') := by
  cases h with
  | same => rwa [zero_add]
  | met hx hrole =>
    cases h' with
    | same => exact (add_zero places).symm ▸ .met hx hrole
  | other hx =>
    cases h' with
    | same => exact (add_zero (0 : Role → Nat)).symm ▸ .other hx

/-- What was read as a subject or a predicate may be counted several times. -/
private theorem Accounts.repeated {before after : Option Marker} {places held : Role → Nat} {k : Nat}
    (h : Accounts x before after (places + held)) (hobject : held .object = 0) (hk : 1 ≤ k) :
    Accounts x before after (places + k • held) := by
  -- nothing is counted several times where nothing was counted
  have hzero : places + held = 0 → places + k • held = 0 := by
    intro hsum
    funext r
    have hr := congrFun hsum r
    simp only [Pi.add_apply, Pi.zero_apply, Nat.add_eq_zero_iff] at hr
    simp [hr]
  generalize htotal : places + held = total at h
  cases h with
  | same => exact hzero htotal ▸ .same
  | other hx => exact hzero htotal ▸ .other hx
  | @met m _ hx hrole =>
    refine .met hx ⟨?_, fun r hr => ?_, fun hr => ?_⟩
    · have hpos := hrole.pos
      rw [← htotal] at hpos
      simp only [Pi.add_apply, Pi.smul_apply, smul_eq_mul] at hpos ⊢
      have := Nat.le_mul_of_pos_left (held m.role) hk
      omega
    · have hnone := hrole.only r hr
      rw [← htotal] at hnone
      simp only [Pi.add_apply, Nat.add_eq_zero_iff] at hnone
      simp [hnone]
    · -- an object stands in one place, and none of the repeated places is one
      have honce := hrole.once hr
      rw [← htotal] at honce
      rw [hr] at honce ⊢
      simpa [hobject] using honce

private theorem accounts_focus (m : Marker) : Accounts x none (some m) (place x m.role .focus) := by
  by_cases hx : x = "POF"
  · refine .met hx ⟨?_, fun r hr => ?_, fun _ => ?_⟩
    · simp [place, isVarNamed, Term.focus, hx]
    · simp [place, hr]
    · simp [place, isVarNamed, Term.focus, hx]
  · have hother : isVarNamed x .focus = false := by simp [isVarNamed, Term.focus, Ne.symm hx]
    rw [place_eq_zero hother]
    exact .other hx

/-! ### Hints -/

/-- The scope holds the hint of the point of focus and no other. -/
def Hinted (focus : Option Marker) (scope : Scope) : Prop :=
  match focus with
  | none => hints scope = (none, none, 0)
  | some m =>
    match m.token.kind with
    | .focus (.pathLength length) => hints scope = (none, none, (length : Int)) ∧ 1 ≤ length ∧ m.role = .predicate
    | .focus (.nameStart _ _) => ∃ iri, hints scope = (none, some iri, 0)
    | .focus (.keyword _) => ∃ word, hints scope = (word, none, 0)
    | _ => hints scope = (none, none, 0)

/-! ### Walks -/

/-- If the point of focus was read as a predicate, there is a pattern with it. -/
def Led (s : State) : Prop := ∀ m ∈ s.focus, m.role = .predicate → ∃ p ∈ s.scope.patterns, p.predicate = .focus

private theorem Led.grow {s after : State} (h : Led s) (hfocus : after.focus = s.focus)
    (hpatterns : s.scope.patterns ⊆ after.scope.patterns) : Led after := by
  intro m hm hrole
  obtain ⟨p, hp, hpredicate⟩ := h m (hfocus ▸ hm) hrole
  exact ⟨p, hpatterns hp, hpredicate⟩

/-- The parser went from one state to another and added the patterns; the places account for the markers it met. A
predicate that was read, but is not in a pattern yet, is pending. -/
structure Walk (x : String) (s after : State) (new : List Pattern) (places : Role → Nat)
    (pending : Prop := False) : Prop where
  ahead : after.ahead <:+ s.ahead
  last : after.last = s.last
  patterns : after.scope.patterns = s.scope.patterns ++ new
  accounts : Accounts x s.focus after.focus places
  hints : Hinted s.focus s.scope → Hinted after.focus after.scope
  leads : Led s → Led after ∨ pending

private theorem Quiet.walk {s after : State} (h : Quiet s after) : Walk x s after [] 0 where
  ahead := h.ahead
  last := h.last
  patterns := by rw [h.patterns, List.append_nil]
  accounts := h.focus ▸ .same
  hints hs := by
    unfold Hinted at hs ⊢
    rwa [h.focus, h.hints]
  leads hs := .inl (hs.grow h.focus (h.patterns ▸ List.Subset.refl _))

private theorem Walk.trans {s middle after : State} {new new' : List Pattern} {places places' : Role → Nat}
    (h : Walk x s middle new places) (h' : Walk x middle after new' places') :
    Walk x s after (new ++ new') (places + places') where
  ahead := h'.ahead.trans h.ahead
  last := h'.last.trans h.last
  patterns := by rw [h'.patterns, h.patterns, List.append_assoc]
  accounts := h.accounts.trans h'.accounts
  hints := h'.hints ∘ h.hints
  leads hs := h'.leads ((h.leads hs).resolve_right id)

private theorem Walk.cast {s after : State} {new new' : List Pattern} {places places' : Role → Nat} {pending : Prop}
    (h : Walk x s after new places pending) (hnew : new = new') (hplaces : places = places') :
    Walk x s after new' places' pending := by
  subst hnew hplaces
  exact h

private theorem Walk.weaken {s after : State} {new : List Pattern} {places : Role → Nat} {pending pending' : Prop}
    (h : Walk x s after new places pending) (hpending : pending → pending') : Walk x s after new places pending' :=
  { h with leads := fun hs => (h.leads hs).imp_right hpending }

private theorem Walk.then_quiet {s middle after : State} {new : List Pattern} {places : Role → Nat}
    (h : Walk x s middle new places) (h' : Quiet middle after) : Walk x s after new places :=
  (h.trans h'.walk).cast (List.append_nil _) (add_zero _)

private theorem Quiet.then_walk {s middle after : State} {new : List Pattern} {places : Role → Nat} (h : Quiet s middle)
    (h' : Walk x middle after new places) : Walk x s after new places :=
  (h.walk.trans h').cast rfl (zero_add _)

/-- The pattern under construction plays no part in a walk. -/
private theorem Walk.recursor {s after : State} {new : List Pattern} {places : Role → Nat} {c c' : Cursor}
    (h : Walk x { s with scope := { s.scope with current := c } } after new places) :
    Walk x s { after with scope := { after.scope with current := c' } } new places :=
  ⟨h.ahead, h.last, h.patterns, h.accounts, h.hints, h.leads⟩

/-- The variable is not written ahead, and it is not one that the parser makes up. -/
structure Foreign (x : String) (s : State) : Prop where
  ahead : ∀ t ∈ s.ahead, t.kind = .var → dropFirst 1 t.text ≠ x
  last : s.last.kind = .eof
  filler : x ≠ "FillVar"
  madeUp : ∀ n : Nat, x ≠ "_anon" ++ n.repr

namespace Foreign

variable {s after : State}

private theorem token (h : Foreign x s) (hkind : s.token.kind = .var) :
    isVarNamed x (.var (dropFirst 1 s.token.text)) = false := by
  have hname : dropFirst 1 s.token.text ≠ x := by
    unfold State.token at hkind ⊢
    cases hahead : s.ahead with
    | nil =>
      rw [hahead, List.headD_nil, h.last] at hkind
      cases hkind
    | cons t ts =>
      rw [hahead, List.headD_cons] at hkind
      exact h.ahead t (by simp [hahead]) hkind
  simpa [isVarNamed] using hname

private theorem walk {new : List Pattern} {places : Role → Nat} {pending : Prop} (h : Foreign x s)
    (hwalk : Walk x s after new places pending) : Foreign x after :=
  ⟨fun t ht => h.ahead t (hwalk.ahead.subset ht), hwalk.last ▸ h.last, h.filler, h.madeUp⟩

private theorem quiet (h : Foreign x s) (hquiet : Quiet s after) : Foreign x after := h.walk hquiet.walk

private theorem isVarNamed_madeUp (h : Foreign x s) {t : Term} (ht : ∃ n, t = Phrase.madeUp n) :
    isVarNamed x t = false := by
  obtain ⟨n, rfl⟩ := ht
  simpa [isVarNamed, Phrase.madeUp] using (h.madeUp n).symm

private theorem isVarNamed_filler (h : Foreign x s) : isVarNamed x .filler = false := by
  simpa [isVarNamed, Term.filler] using h.filler.symm

end Foreign

/-! ### Terms -/

/-- The step gave a term in the place, and left the pattern under construction as it was. -/
def Gives (x : String) (role : Role) (s : State) (t : Term) (after : State) : Prop :=
  ∃ new, Walk x s after new (tally x new + place x role t) (role = .predicate ∧ t = .focus) ∧
    after.scope.current = s.scope.current

/-- A term that is not the variable, and was given on the way. -/
private theorem Walk.gives {s after : State} {new : List Pattern} (h : Walk x s after new (tally x new)) {t : Term}
    (ht : isVarNamed x t = false) (hcurrent : after.scope.current = s.scope.current) (role : Role) :
    Gives x role s t after :=
  ⟨new, (h.cast rfl (by rw [place_eq_zero ht, add_zero])).weaken False.elim, hcurrent⟩

private theorem Quiet.gives {s after : State} (h : Quiet s after) {t : Term} (ht : isVarNamed x t = false)
    (role : Role) : Gives x role s t after :=
  h.walk.gives ht h.current role

/-- Nothing is pending after a subject or an object. -/
private theorem Gives.walk {role : Role} {s after : State} {t : Term} (h : Gives x role s t after)
    (hrole : role ≠ .predicate) :
    ∃ new, Walk x s after new (tally x new + place x role t) ∧ after.scope.current = s.scope.current := by
  obtain ⟨new, hwalk, hcurrent⟩ := h
  exact ⟨new, hwalk.weaken fun hpending => hrole hpending.1, hcurrent⟩

private theorem Quietly.gives {m : Parser Term} (h : Quietly m NotVar) (role : Role) (s : State) :
    Ends s m (Gives x role s) :=
  (h s).mono fun _ _ ⟨hquiet, ht⟩ => hquiet.gives (isVarNamed_of_notVar ht) role

private theorem setKeyword_hints (word : String) (scope : Scope) :
    ∃ keyword, hints (scope.setKeyword word) = (keyword, (hints scope).2) := by
  unfold Scope.setKeyword
  split
  · exact ⟨_, rfl⟩
  · exact ⟨_, rfl⟩

/-- The marker is taken with its hint, and there was none before. -/
private theorem pointOfFocus_walk (role : Role) (s : State) : Ends s (pointOfFocus role) fun t after =>
    Walk x s after [] (place x role t) (role = .predicate ∧ t = .focus) ∧
      after.scope.current = s.scope.current := by
  refine Ends.step (advance_apply s) (Ends.step (get_apply _) ?_)
  refine Ends.ite (fun _ => Ends.failAt_bind _ _) fun hsome => ?_
  have hnone : s.focus = none := by simpa using hsome
  refine Ends.step (modify_apply _ _) ?_
  -- All four forms take the marker alike, so only the hint is left to each of them.
  have hwalk : ∀ after : State, after.ahead <:+ s.ahead → after.last = s.last →
      after.scope.patterns = s.scope.patterns → after.focus = some ⟨s.token, role⟩ →
      (hints s.scope = (none, none, 0) → Hinted (some ⟨s.token, role⟩) after.scope) →
      Walk x s after [] (place x role .focus) (role = .predicate ∧ Term.focus = .focus) := by
    intro after hahead hlast hpatterns hfocus hhints
    refine ⟨hahead, hlast, by simpa using hpatterns, ?_, ?_, fun _ => ?_⟩
    · rw [hnone, hfocus]
      exact accounts_focus ⟨s.token, role⟩
    · rw [hnone, hfocus]
      exact hhints
    · by_cases hrole : role = .predicate
      · exact .inr ⟨hrole, rfl⟩
      · refine .inl fun m hm hpredicate => absurd ?_ hrole
        rw [hfocus] at hm
        cases hm
        exact hpredicate
  have htail : s.ahead.tail <:+ s.ahead := List.tail_suffix _
  dsimp only
  split
  next length hkind =>
    refine Ends.ite (fun _ => Ends.failAt_bind _ _) fun hrole => Ends.ite (fun _ => Ends.failAt_bind _ _) fun hpos => ?_
    refine Ends.step (collect_apply _ _) (Ends.pure ⟨hwalk _ htail rfl rfl rfl fun hs => ?_, rfl⟩)
    simp only [Hinted, hkind]
    simp only [hints, Prod.mk.injEq] at hs ⊢
    exact ⟨⟨hs.1, hs.2.1, rfl⟩, by omega, not_not.1 hrole⟩
  next label part hkind =>
    refine (resolve_quiet label s.token _).bind fun iri middle ⟨hquiet, _⟩ => ?_
    refine Ends.step (collect_apply _ _) (Ends.pure ⟨hwalk _ (hquiet.ahead.trans htail) hquiet.last hquiet.patterns
      hquiet.focus fun hs => ?_, hquiet.current⟩)
    have hsame := hquiet.hints
    simp only [Hinted, hkind]
    simp only [hints, Prod.mk.injEq] at hs hsame ⊢
    exact ⟨_, hsame.1.trans hs.1, rfl, hsame.2.2.trans hs.2.2⟩
  next word hkind =>
    obtain ⟨hpatterns, _, hcurrent⟩ := setKeyword_patterns word s.scope
    refine Ends.step (collect_apply _ _) (Ends.pure ⟨hwalk _ htail rfl hpatterns rfl fun hs => ?_, hcurrent⟩)
    obtain ⟨keyword, hkeyword⟩ := setKeyword_hints word s.scope
    simp only [Hinted, hkind]
    exact ⟨keyword, by rw [hkeyword, hs]⟩
  next hlength hname hword =>
    refine Ends.pure ⟨hwalk _ htail rfl rfl rfl fun hs => ?_, rfl⟩
    unfold Hinted
    dsimp only
    split
    next length hkind => exact absurd hkind (hlength length)
    next label part hkind => exact absurd hkind (hname label part)
    next word hkind => exact absurd hkind (hword word)
    · exact hs

private theorem pointOfFocus_gives (role : Role) (s : State) : Ends s (pointOfFocus role) (Gives x role s) :=
  (pointOfFocus_walk role s).mono fun _ _ ⟨hwalk, hcurrent⟩ => ⟨[], hwalk.cast rfl (zero_add _).symm, hcurrent⟩

private theorem written_gives {s : State} (hs : Foreign x s) (hkind : s.token.kind = .var) (role : Role) :
    Ends s (do return .var (dropFirst 1 (← advance).text)) (Gives x role s) :=
  Ends.step (advance_apply s) (Ends.pure ((Quiet.skip s (List.tail_suffix _)).gives (hs.token hkind) role))

private theorem simpleTerm_gives (role : Role) {s : State} (hs : Foreign x s) :
    Ends s (simpleTerm role) (Gives x role s) := by
  have hliteral : ∀ {m : Parser Literal}, (Quietly m fun _ => True) → Quietly (do return .literal (← m)) NotVar :=
    fun hm => hm.bind fun _ _ => Quietly.pure (by simp [NotVar])
  refine Ends.step (token_apply s) ?_
  split
  · exact pointOfFocus_gives role s
  next hkind => exact written_gives hs hkind role
  · exact Quietly.gives (advance_quiet.bind fun _ _ => Quietly.pure (by simp [NotVar])) role s
  · refine Quietly.gives (advance_quiet.bind fun _ _ => ?_) role s
    exact (resolveName_quiet _).bind fun _ _ => Quietly.pure (by simp [NotVar])
  · exact Quietly.gives (advance_quiet.bind fun _ _ => Quietly.pure (by simp [NotVar])) role s
  · exact (hliteral textLiteral_quiet).gives role s
  · exact (hliteral number_quiet).gives role s
  · exact (hliteral number_quiet).gives role s
  · exact (hliteral number_quiet).gives role s
  · exact (hliteral number_quiet).gives role s
  · exact (hliteral number_quiet).gives role s
  · refine Ends.ite (fun _ => ?_) fun _ => Ends.fail _
    exact Quietly.gives (advance_quiet.bind fun _ _ => Quietly.pure (by simp [NotVar])) role s

private theorem graphNode_gives (role : Role) {s : State} (hs : Foreign x s) :
    Ends s (graphNode role) (Gives x role s) := by
  refine Ends.step (atSymbol_apply _ s) (Ends.ite (fun _ => ?_) fun _ => simpleTerm_gives role hs)
  have hquiet : Quietly (do let _ ← advance; let _ ← expectSymbol .closeBracket; freshVariable) fun t =>
      ∃ n, t = madeUp n := advance_quiet.bind fun _ _ => (expectSymbol_quiet _).bind fun _ _ => freshVariable_quiet
  exact (hquiet s).mono fun t after ⟨hafter, ht⟩ => hafter.gives (hs.isVarNamed_madeUp ht) role

private theorem verb_gives (bound : Nat) {s : State} (hs : Foreign x s) :
    Ends s (verb bound) (Gives x .predicate s) := by
  refine Ends.step (token_apply s) ?_
  split
  · exact pointOfFocus_gives _ s
  next hkind => exact written_gives hs hkind _
  · exact (path_quiet bound).gives _ s

/-! ### Triples -/

/-- The step added patterns that hold, besides what accounts for the markers it met, given places one or more times. -/
def Adds (x : String) (held : Role → Nat) (s after : State) : Prop :=
  ∃ new places k, Walk x s after new places ∧ 1 ≤ k ∧ tally x new = places + k • held

private theorem Adds.trans {held : Role → Nat} {s middle after : State} (h : Adds x held s middle)
    (h' : Adds x held middle after) : Adds x held s after := by
  obtain ⟨new, places, k, hwalk, hk, htally⟩ := h
  obtain ⟨new', places', k', hwalk', -, htally'⟩ := h'
  refine ⟨new ++ new', places + places', k + k', hwalk.trans hwalk', by omega, ?_⟩
  rw [tally_append, htally, htally', add_nsmul]
  abel

private theorem Adds.then_quiet {held : Role → Nat} {s middle after : State} (h : Adds x held s middle)
    (h' : Quiet middle after) : Adds x held s after := by
  obtain ⟨new, places, k, hwalk, hk, htally⟩ := h
  exact ⟨new, places, k, hwalk.then_quiet h', hk, htally⟩

private theorem Adds.foreign {held : Role → Nat} {s after : State} (h : Adds x held s after) (hs : Foreign x s) :
    Foreign x after := by
  obtain ⟨new, places, k, hwalk, -, -⟩ := h
  exact hs.walk hwalk

/-- A term that was read before, and then got into all of the patterns, belongs to what was met. -/
private theorem Adds.absorb {held more : Role → Nat} {s middle after : State} {new : List Pattern} {pending : Prop}
    (h : Walk x s middle new (tally x new + more) pending) (hobject : more .object = 0)
    (h' : Adds x (held + more) middle after) (hpending : pending → Led after) : Adds x held s after := by
  obtain ⟨new', places, k, hwalk, hk, htally⟩ := h'
  have hmore : tally x new + more + places = tally x new + places + more := by abel
  have haccounts := (hmore ▸ h.accounts.trans hwalk.accounts).repeated hobject hk
  refine ⟨new ++ new', tally x new + places + k • more, k, ?_, hk, ?_⟩
  · refine ⟨hwalk.ahead.trans h.ahead, hwalk.last.trans h.last, ?_, haccounts, hwalk.hints ∘ h.hints, fun hs => ?_⟩
    · rw [hwalk.patterns, h.patterns, List.append_assoc]
    · rcases h.leads hs with hmiddle | hpredicate
      · exact hwalk.leads hmiddle
      · exact .inl (hpending hpredicate)
  · rw [tally_append, htally, nsmul_add]
    abel

/-- A pattern that was completed with an object. -/
private theorem Adds.complete {s middle : State} {p : Pattern} {new : List Pattern}
    (h : Walk x s middle new (tally x new + place x .object p.object)) (c : Cursor) :
    Adds x (place x .subject p.subject + place x .predicate p.predicate) s (middle.adding c [p]) := by
  have hadded : Walk x s (middle.adding c [p]) (new ++ [p]) (tally x new + place x .object p.object) := by
    refine { h with patterns := ?_, hints := h.hints, leads := fun hs => .inl ?_ }
    · simp [State.adding, h.patterns]
    · exact ((h.leads hs).resolve_right id).grow rfl (List.subset_append_left _ _)
  refine ⟨_, _, 1, hadded, le_rfl, ?_⟩
  rw [tally_append, tally_cons, tally_nil, one_nsmul]
  abel

private theorem collectPattern_adding {s : State} {subject predicate : Term}
    (hsubject : s.scope.current.subject = some subject)
    (hpredicate : s.scope.current.predicate = some predicate) (object : Term) :
    collectPattern { s with scope := s.scope.setObject object } =
      (.ok (), s.adding { s.scope.current with object := some object } [{ subject, predicate, object }]) :=
  collectPattern_apply (by simp [Scope.setObject, hsubject, hpredicate])

section

variable {inner : Parser Term} (hinner : ∀ s, Foreign x s → Ends s inner (Gives x .object s))

include hinner in
private theorem objects_adds (bound : Nat) {s : State} (hs : Foreign x s) {subject predicate : Term}
    (hsubject : s.scope.current.subject = some subject) (hpredicate : s.scope.current.predicate = some predicate) :
    Ends s (objects inner bound) fun _ after =>
      Adds x (place x .subject subject + place x .predicate predicate) s after ∧
        after.scope.current.subject = some subject ∧ ∃ p ∈ after.scope.patterns, p.predicate = predicate := by
  induction bound generalizing s with
  | zero => exact Ends.fail _
  | succ bound ih =>
    refine (hinner s hs).bind fun t middle hgives => ?_
    obtain ⟨new, hwalk, hcurrent⟩ := hgives.walk (by decide)
    rw [← hcurrent] at hsubject hpredicate
    have hadds := Adds.complete (p := { subject, predicate, object := t }) hwalk
      { middle.scope.current with object := some t }
    have hadded : ∃ p ∈ middle.scope.patterns ++ [{ subject, predicate, object := t }], p.predicate = predicate :=
      ⟨_, List.mem_append_right _ List.mem_cons_self, rfl⟩
    refine Ends.step (collect_apply _ _) (Ends.step (collectPattern_adding hsubject hpredicate t) ?_)
    refine Ends.step (atSymbol_apply _ _) (Ends.ite (fun _ => ?_) fun _ => Ends.pure ⟨hadds, hsubject, hadded⟩)
    refine (advance_quiet _).bind fun _ next ⟨hnext, _⟩ => ?_
    have hlater := hadds.then_quiet hnext
    have hsubject' : next.scope.current.subject = some subject := by rw [hnext.current]; exact hsubject
    have hpredicate' : next.scope.current.predicate = some predicate := by rw [hnext.current]; exact hpredicate
    exact (ih (hlater.foreign hs) hsubject' hpredicate').mono fun _ _ ⟨hrest, hkept⟩ => ⟨hlater.trans hrest, hkept⟩

include hinner in
private theorem objectList_adds (bound : Nat) {s : State} (hs : Foreign x s) {subject predicate : Term}
    (hsubject : s.scope.current.subject = some subject) (hpredicate : s.scope.current.predicate = some predicate) :
    Ends s (objectList inner bound predicate) fun _ after =>
      Adds x (place x .subject subject + place x .predicate predicate) s after ∧
        after.scope.current.subject = some subject ∧ ∃ p ∈ after.scope.patterns, p.predicate = predicate := by
  refine Ends.step (token_apply s) (Ends.ite (fun _ => objects_adds hinner bound hs hsubject hpredicate) fun _ => ?_)
  refine Ends.ite (fun _ => ?_) fun _ => Ends.step (token_apply s) (Ends.fail _)
  have hwalk : Walk x s s [] (tally x [] + place x .object .filler) :=
    (Quiet.refl s).walk.cast rfl (by rw [place_eq_zero hs.isVarNamed_filler, tally_nil, add_zero])
  refine Ends.step (collect_apply _ _) fun _ after hrun => ?_
  cases (collectPattern_adding hsubject hpredicate .filler).symm.trans hrun
  exact ⟨Adds.complete (p := { subject, predicate, object := .filler }) hwalk _, hsubject, _,
    List.mem_append_right _ List.mem_cons_self, rfl⟩

include hinner in
private theorem propertyList_adds (bound : Nat) {s : State} (hs : Foreign x s) {subject : Term}
    (hsubject : s.scope.current.subject = some subject) :
    Ends s (propertyList inner bound) fun _ after => Adds x (place x .subject subject) s after := by
  induction bound generalizing s with
  | zero => exact Ends.fail _
  | succ bound ih =>
    refine (verb_gives bound hs).bind fun predicate middle ⟨new, hwalk, hcurrent⟩ => ?_
    refine Ends.step (collect_apply _ _) ?_
    have hmiddle : Foreign x { middle with scope := middle.scope.setPredicate predicate } :=
      ⟨(hs.walk hwalk).ahead, (hs.walk hwalk).last, hs.filler, hs.madeUp⟩
    have hread : Walk x s { middle with scope := middle.scope.setPredicate predicate } new
        (tally x new + place x .predicate predicate) (Role.predicate = .predicate ∧ predicate = .focus) :=
      ⟨hwalk.ahead, hwalk.last, hwalk.patterns, hwalk.accounts, hwalk.hints, hwalk.leads⟩
    rw [← hcurrent] at hsubject
    refine (objectList_adds hinner bound hmiddle hsubject rfl).bind fun _ later ⟨hobjects, hkept, hlead⟩ => ?_
    have hadds := Adds.absorb hread (place_object (by decide) predicate) hobjects fun hpending _ _ _ =>
      hpending.2 ▸ hlead
    refine Ends.step (atSymbol_apply _ _) (Ends.ite (fun _ => ?_) fun _ => Ends.pure hadds)
    refine (skipSemicolons_quiet later).bind fun _ next ⟨hnext, _⟩ => Ends.step (token_apply next) ?_
    have hlater := hadds.then_quiet hnext
    refine Ends.ite (fun _ => ?_) fun _ => Ends.pure hlater
    have hsubject' : next.scope.current.subject = some subject := by rw [hnext.current]; exact hkept
    exact (ih (hlater.foreign hs) hsubject').mono fun _ _ hrest => hlater.trans hrest

private theorem Ends.nested {α : Type} {s : State} {m : Parser α} {Q : α → State → Prop}
    (h : Ends { s with scope := { s.scope with current := {} } } m fun a middle =>
      Q a { middle with scope := { middle.scope with current := s.scope.current } }) : Ends s (Query.nested m) Q := by
  intro a after hrun
  rw [nested_apply] at hrun
  split at hrun
  next result middle hinner =>
    cases hrun
    exact h a middle hinner

/-- Patterns in which nothing that was read before takes part. -/
private theorem Adds.walk {s after : State} (h : Adds x 0 s after) : ∃ new, Walk x s after new (tally x new) := by
  obtain ⟨new, places, k, hwalk, -, htally⟩ := h
  rw [nsmul_zero, add_zero] at htally
  exact ⟨new, htally ▸ hwalk⟩

include hinner in
private theorem blankNode_walk (bound : Nat) {s : State} (hs : Foreign x s) :
    Ends s (blankNode inner bound) fun t after =>
    (∃ new, Walk x s after new (tally x new)) ∧ after.scope.current = s.scope.current ∧ isVarNamed x t = false := by
  refine (expectSymbol_quiet _ s).bind fun _ opened ⟨hopened, _⟩ => ?_
  refine (freshVariable_quiet opened).bind fun node made ⟨hmade, hnode⟩ => ?_
  have hbefore := hopened.trans hmade
  have hother := hs.isVarNamed_madeUp hnode
  refine Ends.bind (Q := fun _ after => (∃ new, Walk x s after new (tally x new)) ∧
    after.scope.current = s.scope.current) (Ends.nested ?_) fun _ middle ⟨⟨new, hwalk⟩, hcurrent⟩ => ?_
  · refine Ends.step (collect_apply _ _) (Ends.step (token_apply _) ?_)
    refine Ends.ite (fun _ => Ends.fail_bind _) fun _ => ?_
    have hinside : Foreign x { made with scope := { made.scope with current := { subject := some node } } } :=
      ⟨(hs.quiet hbefore).ahead, (hs.quiet hbefore).last, hs.filler, hs.madeUp⟩
    refine (propertyList_adds hinner bound hinside rfl).mono fun _ middle hadds => ?_
    rw [place_eq_zero hother] at hadds
    obtain ⟨new, hwalk⟩ := hadds.walk
    exact ⟨⟨new, hbefore.then_walk hwalk.recursor⟩, hbefore.current⟩
  · refine (expectSymbol_quiet _ middle).bind fun _ after ⟨hafter, _⟩ => Ends.pure ?_
    exact ⟨⟨new, hwalk.then_quiet hafter⟩, hafter.current.trans hcurrent, hother⟩

/-- The places of the items of a collection. -/
def heldItems (x : String) : List Term → Role → Nat
  | [] => 0
  | t :: ts => place x .object t + heldItems x ts

include hinner in
private theorem items_walk (opening : Token) (bound : Nat) {s : State} (hs : Foreign x s) :
    Ends s (items inner opening bound) fun ts after =>
      ∃ new, Walk x s after new (tally x new + heldItems x ts) ∧ after.scope.current = s.scope.current := by
  induction bound generalizing s with
  | zero => exact Ends.fail _
  | succ bound ih =>
    refine Ends.step (token_apply s) (Ends.ite (fun _ => ?_) fun _ => Ends.ite (fun _ => Ends.failAt _ _) fun _ => ?_)
    · refine (advance_quiet s).bind fun _ after ⟨hafter, _⟩ => Ends.pure ⟨[], hafter.walk.cast rfl ?_, hafter.current⟩
      rw [heldItems, tally_nil, add_zero]
    · refine (hinner s hs).bind fun t middle hgives => ?_
      obtain ⟨new, hwalk, hcurrent⟩ := hgives.walk (by decide)
      refine (ih (hs.walk hwalk)).bind fun ts after ⟨new', hwalk', hcurrent'⟩ => Ends.pure ?_
      refine ⟨new ++ new', (hwalk.trans hwalk').cast rfl ?_, hcurrent'.trans hcurrent⟩
      rw [tally_append, heldItems]
      abel

/-- The patterns of a list hold its items as objects. -/
private theorem tally_listPatterns {s : State} (hs : Foreign x s) (n : Nat) (ts : List Term) :
    tally x (Phrase.listPatterns n ts) = heldItems x ts := by
  have hmade : ∀ n role, place x role (madeUp n) = 0 := fun n => place_eq_zero (hs.isVarNamed_madeUp ⟨n, rfl⟩)
  have hiri : ∀ iri role, place x role (.iri iri) = 0 := fun iri => place_eq_zero rfl
  fun_induction Phrase.listPatterns n ts with
  | case1 => rfl
  | case2 n item => simp [tally_cons, hmade, hiri, heldItems]
  | case3 n item items _ ih => simp [tally_cons, hmade, hiri, heldItems, ih]

include hinner in
private theorem collection_walk (bound : Nat) {s : State} (hs : Foreign x s) :
    Ends s (collection inner bound) fun t after =>
    (∃ new, Walk x s after new (tally x new)) ∧ after.scope.current = s.scope.current ∧ isVarNamed x t = false := by
  refine (expectSymbol_quiet _ s).bind fun opening opened ⟨hopened, _⟩ => ?_
  refine (items_walk hinner opening bound (hs.quiet hopened)).bind fun ts middle ⟨new, hwalk, hcurrent⟩ => ?_
  refine Ends.step (freshNodes_apply ts middle) ?_
  have hread := hopened.then_walk hwalk
  cases ts with
  | nil =>
    refine Ends.pure ⟨⟨new, ?_⟩, hcurrent.trans hopened.current, rfl⟩
    exact ⟨hread.ahead, hread.last, hread.patterns, add_zero (tally x new) ▸ hread.accounts, hread.hints, hread.leads⟩
  | cons first others =>
    obtain ⟨c, hlinks⟩ := linkNodes_apply (first :: others) middle.anonymous
      { middle with
        anonymous := middle.anonymous + (first :: others).length, scope := { middle.scope with current := {} } }
    -- the first node is made up, so it is not the variable that is looked for
    have hnode := hs.isVarNamed_madeUp ⟨middle.anonymous, rfl⟩
    simp only [madeUps, List.length_cons, List.range'_succ, List.map_cons] at hlinks ⊢
    refine Ends.bind (Q := fun _ after => (∃ new, Walk x s after new (tally x new)) ∧
      after.scope.current = s.scope.current) (Ends.nested fun _ linked hrun => ?_) fun _ after hafter =>
        Ends.pure ⟨hafter.1, hafter.2, hnode⟩
    cases hlinks.symm.trans hrun
    refine ⟨⟨new ++ Phrase.listPatterns middle.anonymous (first :: others), hread.ahead, hread.last, ?_, ?_,
      hread.hints, fun hstart => .inl ?_⟩, hcurrent.trans hopened.current⟩
    · simp [State.adding, hread.patterns]
    · rw [tally_append, tally_listPatterns hs]
      exact hread.accounts
    · exact ((hread.leads hstart).resolve_right id).grow rfl (List.subset_append_left _ _)

end

private theorem object_gives (bound : Nat) : ∀ s, Foreign x s → Ends s (object bound) (Gives x .object s) := by
  induction bound with
  | zero => exact fun s _ => Ends.fail _
  | succ bound ih =>
    intro s hs
    have hgives : ∀ t after, ((∃ new, Walk x s after new (tally x new)) ∧ after.scope.current = s.scope.current ∧
        isVarNamed x t = false) → Gives x .object s t after := by
      rintro t after ⟨⟨new, hwalk⟩, hcurrent, ht⟩
      exact hwalk.gives ht hcurrent _
    refine Ends.step (atBlankNode_apply s) (Ends.ite (fun _ => (blankNode_walk ih bound hs).mono hgives) fun _ => ?_)
    refine Ends.step (atSymbol_apply _ s) (Ends.ite (fun _ => (collection_walk ih bound hs).mono hgives) fun _ => ?_)
    exact graphNode_gives _ hs

/-- A subject that holds triples of its own is no marker, and only such a subject stands without a predicate. -/
private theorem triplesRest_walk {bound : Nat} {isBlank isCollection : Bool} {subject : Term} {s middle : State}
    (hs : Foreign x s) (hother : isBlank = true ∨ isCollection = true → isVarNamed x subject = false)
    (hgives : Gives x .subject s subject middle) :
    Ends middle (triplesRest bound isBlank isCollection subject) fun _ after =>
      ∃ new, Walk x s after new (tally x new) := by
  obtain ⟨new, hwalk, -⟩ := hgives.walk (by decide)
  have hread : Walk x s { middle with scope := middle.scope.setSubject subject } new
      (tally x new + place x .subject subject) :=
    ⟨hwalk.ahead, hwalk.last, hwalk.patterns, hwalk.accounts, hwalk.hints, hwalk.leads⟩
  refine Ends.step (collect_apply _ _) (Ends.step (token_apply _) (Ends.ite (fun _ => ?_) fun _ => ?_))
  · refine (propertyList_adds (object_gives bound) bound (hs.walk hread) rfl).mono fun _ after hadds => ?_
    exact (Adds.absorb hread (place_object (by decide) subject) (by rwa [zero_add]) False.elim).walk
  · refine Ends.ite (fun _ => Ends.step (token_apply _) (Ends.fail _)) fun hno => Ends.pure ⟨new, ?_⟩
    have hsome : isBlank = true ∨ isCollection = true := by
      cases isBlank <;> cases isCollection <;> simp_all
    rwa [place_eq_zero (hother hsome), add_zero] at hread

private theorem triples_walk (bound : Nat) {s : State} (hs : Foreign x s) :
    Ends s (triples bound) fun _ after => ∃ new, Walk x s after new (tally x new) := by
  have hgives : ∀ t after, ((∃ new, Walk x s after new (tally x new)) ∧ after.scope.current = s.scope.current ∧
      isVarNamed x t = false) → isVarNamed x t = false ∧ Gives x .subject s t after := by
    rintro t after ⟨⟨new, hwalk⟩, hcurrent, ht⟩
    exact ⟨ht, hwalk.gives ht hcurrent _⟩
  have hobject := object_gives (x := x) bound
  rw [triples_eq]
  refine Ends.step (atBlankNode_apply s) (Ends.step (atSymbol_apply _ s) (Ends.ite (fun _ => ?_) fun hblank => ?_))
  · refine ((blankNode_walk hobject bound hs).mono hgives).bind fun t middle ⟨ht, hmiddle⟩ => ?_
    exact triplesRest_walk hs (fun _ => ht) hmiddle
  refine Ends.ite (fun _ => ?_) fun hcollection => ?_
  · refine ((collection_walk hobject bound hs).mono hgives).bind fun t middle ⟨ht, hmiddle⟩ => ?_
    exact triplesRest_walk hs (fun _ => ht) hmiddle
  · refine (graphNode_gives _ hs).bind fun t middle hmiddle => triplesRest_walk hs (fun hor => ?_) hmiddle
    exact (hor.elim hblank hcollection).elim

/-! ### Groups -/

/-- The step adds patterns that account for the markers it met. -/
def WalksGroup (x : String) (m : Parser Unit) : Prop :=
  ∀ s, Foreign x s → Ends s m fun _ after => ∃ new, Walk x s after new (tally x new)

private theorem Quietly.walksGroup {m : Parser Unit} {Q : Unit → Prop} (h : Quietly m Q) : WalksGroup x m :=
  fun s _ => (h s).mono fun _ _ hafter => ⟨[], hafter.1.walk⟩

private theorem WalksGroup.bind {m : Parser Unit} {f : Unit → Parser Unit} (hm : WalksGroup x m)
    (hf : WalksGroup x (f ())) : WalksGroup x (m >>= f) := by
  intro s hs
  refine (hm s hs).bind fun _ middle ⟨new, hwalk⟩ => (hf middle (hs.walk hwalk)).mono fun _ after ⟨new', hwalk'⟩ => ?_
  exact ⟨new ++ new', (hwalk.trans hwalk').cast rfl (tally_append new new').symm⟩

/-- A quiet step before others. -/
private theorem Quietly.bind_walksGroup {α : Type} {m : Parser α} {f : α → Parser Unit} {Q : α → Prop}
    (hm : Quietly m Q) (hf : ∀ a, WalksGroup x (f a)) : WalksGroup x (m >>= f) := by
  intro s hs
  refine (hm s).bind fun a middle ⟨hquiet, _⟩ => (hf a middle (hs.quiet hquiet)).mono fun _ after ⟨new, hwalk⟩ => ?_
  exact ⟨new, hquiet.then_walk hwalk⟩

private theorem WalksGroup.ite {p : Prop} [Decidable p] {m n : Parser Unit} (hm : WalksGroup x m)
    (hn : WalksGroup x n) : WalksGroup x (if p then m else n) := by
  split
  · exact hm
  · exact hn

/-- The name of a graph is never a marker. -/
private theorem graphName_quiet {s : State} (h : s.token.kind ∈ [Kind.var, .iri, .prefixedName]) :
    Ends s (simpleTerm .subject) fun _ after => Quiet s after := by
  refine Ends.step (token_apply s) ?_
  have hquiet : ∀ {m : Parser Term} {Q : Term → Prop}, Quietly m Q → Ends s m fun _ after => Quiet s after :=
    fun hm => (hm s).mono fun _ _ hafter => hafter.1
  simp only [List.mem_cons, List.not_mem_nil, or_false] at h
  rcases h with h | h | h
  · rw [h]
    exact hquiet (advance_quiet.bind fun _ _ => Quietly.pure (Q := fun _ => True) trivial)
  · rw [h]
    exact hquiet (advance_quiet.bind fun _ _ => Quietly.pure (Q := fun _ => True) trivial)
  · rw [h]
    exact hquiet (advance_quiet.bind fun _ _ => (resolveName_quiet _).bind fun _ _ =>
      Quietly.pure (Q := fun _ => True) trivial)

section

variable {inner : Parser Unit} (hinner : WalksGroup x inner)

include hinner

private theorem namedGroup_walks (keyword : String) : WalksGroup x (namedGroup inner keyword) := by
  have hname : ∀ s, Foreign x s → s.token.kind ∈ [Kind.var, .iri, .prefixedName] →
      Ends s (do let _ ← simpleTerm .subject; inner) fun _ after => ∃ new, Walk x s after new (tally x new) := by
    intro s hs hkind
    refine (graphName_quiet hkind).bind fun _ middle hquiet => ?_
    exact (hinner middle (hs.quiet hquiet)).mono fun _ after ⟨new, hwalk⟩ => ⟨new, hquiet.then_walk hwalk⟩
  unfold namedGroup
  refine WalksGroup.ite ((skipKeyword_quiet _).bind_walksGroup fun _ => ?_) ?_
  all_goals
    intro s hs
    refine Ends.step (token_apply s) ?_
    split
    next hkind => exact hname s hs (by simp [hkind])
    next hkind => exact hname s hs (by simp [hkind])
    next hkind => exact hname s hs (by simp [hkind])
    · exact Ends.fail _

private theorem element_walks : WalksGroup x (element inner) := by
  refine advance_quiet.bind_walksGroup fun _ => WalksGroup.ite hinner (WalksGroup.ite (namedGroup_walks hinner _) ?_)
  refine WalksGroup.ite constraint_quiet.walksGroup (WalksGroup.ite (skipBracket_quiet _ _).walksGroup ?_)
  exact values_quiet.walksGroup

private theorem unions_walks : ∀ bound, WalksGroup x (unions inner bound)
  | 0 => (Quietly.fail _ (Q := fun _ => True)).walksGroup
  | bound + 1 => by
    have hend : Quietly (pure () : Parser Unit) fun _ => True := Quietly.pure trivial
    refine (atKeyword_quiet _).bind_walksGroup fun _ => WalksGroup.ite ?_ hend.walksGroup
    exact advance_quiet.bind_walksGroup fun _ => hinner.bind (unions_walks bound)

private theorem elements_walks (opening : Token) : ∀ bound, WalksGroup x (elements inner opening bound)
  | 0 => (Quietly.fail _ (Q := fun _ => True)).walksGroup
  | bound + 1 => by
    have hrest := elements_walks opening bound
    refine token_quiet.bind_walksGroup fun t => ?_
    split
    · exact (advance_quiet.bind fun _ _ => Quietly.pure (Q := fun _ => True) trivial).walksGroup
    · exact (Quietly.failAt _ _ (Q := fun _ => True)).walksGroup
    · exact advance_quiet.bind_walksGroup fun _ => hrest
    · exact hinner.bind ((unions_walks hinner bound).bind hrest)
    · refine WalksGroup.ite ((element_walks hinner).bind hrest) (WalksGroup.bind (fun s hs => triples_walk bound hs) ?_)
      refine token_quiet.bind_walksGroup fun _ => WalksGroup.ite ?_ hrest
      exact token_quiet.bind_walksGroup fun _ => (Quietly.fail _ (Q := fun _ => True)).walksGroup.bind hrest

end

private theorem group_walks : ∀ bound, WalksGroup x (group bound)
  | 0 => (Quietly.fail _ (Q := fun _ => True)).walksGroup
  | bound + 1 => by
    refine (expectSymbol_quiet _).bind_walksGroup fun opening => (atKeyword_quiet _).bind_walksGroup fun _ => ?_
    have hrest := elements_walks (group_walks bound) opening bound
    exact WalksGroup.ite ((Quietly.fail _ (Q := fun _ => True)).walksGroup.bind hrest) hrest

/-- Reading a query adds patterns whose places are accounted for by the marker that was met. -/
theorem query_walks (bound : Nat) : WalksGroup x (query bound) := by
  refine (prologue_quiet bound).bind_walksGroup fun _ => (selectClause_quiet bound).bind_walksGroup fun _ => ?_
  refine (datasets_quiet bound).bind_walksGroup fun _ => (skipKeyword_quiet _).bind_walksGroup fun _ => ?_
  refine (group_walks bound).bind ((modifiers_quiet bound).bind_walksGroup fun _ => ?_)
  exact ((expect_quiet _ _).bind fun _ _ => Quietly.pure (Q := fun _ => True) trivial).walksGroup

end Query

end PointOfFocus
