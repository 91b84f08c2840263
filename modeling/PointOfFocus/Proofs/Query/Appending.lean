import PointOfFocus.Proofs.Query.Remainders
import PointOfFocus.Proofs.Query.Totality
import PointOfFocus.Session

/-!
# Reading only appends

A reading goes on with the scope that it is given. Wherever it ends, with the query read or at a fault, the patterns that
were there stand in front of the new ones, the declared labels are still declared, and a blank node with predicates or a
collection has left the pattern under construction as it was (`parse_appends`).

The relations here are between the state before a step and the state after it, also where the step stops with a fault.
They are closed under doing one step after the other, so each production inherits them from the steps that it is made of.
Most steps are `Light`: they neither add a pattern nor touch the one under construction.
-/

namespace PointOfFocus.Query

open PointOfFocus.Rdf

/-- However the step ends, the state after it is related to the state before it. -/
def Leads {α : Type} (R : State → State → Prop) (m : Parser α) : Prop := ∀ s, R s (m s).2

/-- The patterns, the pattern under construction, the prefixes and the projection are the same. -/
structure Light (s after : State) : Prop where
  patterns : after.scope.patterns = s.scope.patterns
  current : after.scope.current = s.scope.current
  prefixes : after.scope.prefixes = s.scope.prefixes
  projection : after.scope.projection = s.scope.projection

/-- The second scope has the patterns and the labels of the first one in front, and the same projection. -/
structure Grows (scope after : Scope) : Prop where
  patterns : scope.patterns <+: after.patterns
  labels : scope.prefixes.map (·.1) <+: after.prefixes.map (·.1)
  projection : after.projection = scope.projection

/-- What was collected is still there. -/
def Appends (s after : State) : Prop := Grows s.scope after.scope

/-- The pattern under construction is the same. -/
def Restores (s after : State) : Prop := after.scope.current = s.scope.current

private theorem Light.refl (s : State) : Light s s := ⟨rfl, rfl, rfl, rfl⟩

private theorem Grows.refl (scope : Scope) : Grows scope scope := ⟨List.prefix_refl _, List.prefix_refl _, rfl⟩

instance : IsTrans State Light where
  trans _ _ _ h h' := ⟨h'.patterns.trans h.patterns, h'.current.trans h.current, h'.prefixes.trans h.prefixes,
    h'.projection.trans h.projection⟩

instance : IsTrans State Appends where
  trans _ _ _ h h' := ⟨h.patterns.trans h'.patterns, h.labels.trans h'.labels, h'.projection.trans h.projection⟩

instance : IsTrans State Restores where
  trans _ _ _ h h' := h'.trans h

private theorem Light.appends {s after : State} (h : Light s after) : Appends s after :=
  ⟨h.patterns ▸ List.prefix_refl _, h.prefixes ▸ List.prefix_refl _, h.projection⟩

section

variable {α β : Type} {R R' : State → State → Prop}

private theorem Leads.bind [IsTrans State R] {m : Parser α} {f : α → Parser β} (hm : Leads R m)
    (hf : ∀ a, Leads R (f a)) : Leads R (m >>= f) := by
  intro s
  have hfirst := hm s
  rw [bind_apply]
  rcases hrun : m s with ⟨e | a, middle⟩
  · rwa [hrun] at hfirst
  · rw [hrun] at hfirst
    exact IsTrans.trans s middle _ hfirst (hf a middle)

private theorem Leads.mono {m : Parser α} (hm : Leads R m) (h : ∀ s after, R s after → R' s after) : Leads R' m :=
  fun s => h s _ (hm s)

private theorem Leads.ite {p : Prop} [Decidable p] {m n : Parser α} (hm : Leads R m) (hn : Leads R n) :
    Leads R (if p then m else n) := by
  split
  · exact hm
  · exact hn

end

/-! ### Light steps -/

private theorem pure_light {α : Type} (a : α) : Leads Light (pure a : Parser α) := Light.refl

private theorem throw_light {α : Type} (e : Error) : Leads Light (throw e : Parser α) := Light.refl

private theorem failAt_light {α : Type} (t : Token) (cause : Cause) : Leads Light (failAt t cause : Parser α) :=
  Light.refl

private theorem fail_light {α : Type} (cause : Cause) : Leads Light (fail cause : Parser α) := Light.refl

private theorem get_light : Leads Light (get : Parser State) := Light.refl

private theorem token_light : Leads Light token := Light.refl

private theorem advance_light : Leads Light advance := fun _ => ⟨rfl, rfl, rfl, rfl⟩

private theorem atSymbol_light (x : Symbol) : Leads Light (atSymbol x) := Light.refl

private theorem atKeyword_light (words : List String) : Leads Light (atKeyword words) := Light.refl

private theorem atBlankNode_light : Leads Light atBlankNode := Light.refl

private theorem freshVariable_light : Leads Light freshVariable := fun _ => ⟨rfl, rfl, rfl, rfl⟩

private theorem skipSemicolons_light : Leads Light skipSemicolons := fun _ => ⟨rfl, rfl, rfl, rfl⟩

private theorem expect_light (kind : Kind) (what : String) : Leads Light (expect kind what) :=
  token_light.bind fun _ => advance_light.ite (token_light.bind fun _ => fail_light _)

private theorem expectSymbol_light (x : Symbol) : Leads Light (expectSymbol x) := expect_light _ _

private theorem expectKeyword_light (word : String) : Leads Light (expectKeyword word) :=
  (atKeyword_light _).bind fun _ => advance_light.ite (token_light.bind fun _ => fail_light _)

private theorem skipKeyword_light (words : List String) : Leads Light (skipKeyword words) :=
  (atKeyword_light _).bind fun _ => Leads.ite (advance_light.bind fun _ => pure_light _) (pure_light _)

private theorem skipBrackets_light : Leads Light skipBrackets := by
  refine advance_light.bind fun opening => get_light.bind fun s => ?_
  split
  all_goals exact fun _ => ⟨rfl, rfl, rfl, rfl⟩

private theorem skipBracket_light (x : Symbol) (cause : Cause) : Leads Light (skipBracket x cause) :=
  (atSymbol_light _).bind fun _ => skipBrackets_light.ite (fail_light _)

/-! ### Names, literals and the point of focus -/

private theorem resolve_light (label : String) (t : Token) : Leads Light (resolve label t) := by
  refine get_light.bind fun s => ?_
  split
  · exact pure_light _
  · exact failAt_light _ _

private theorem resolveName_light (t : Token) : Leads Light (resolveName t) :=
  (resolve_light _ _).bind fun _ => pure_light _

private theorem expectIri_light (what : String) : Leads Light (expectIri what) :=
  (expect_light _ _).bind fun _ => pure_light _

private theorem datatypeIri_light : Leads Light datatypeIri := by
  refine token_light.bind fun t => ?_
  split
  · exact advance_light.bind fun _ => pure_light _
  · exact advance_light.bind fun _ => resolveName_light _
  · exact fail_light _

private theorem textLiteral_light : Leads Light textLiteral := by
  refine advance_light.bind fun t => ?_
  split
  · exact throw_light _
  · refine token_light.bind fun _ => ?_
    split
    · exact advance_light.bind fun _ => pure_light _
    · exact advance_light.bind fun _ => datatypeIri_light.bind fun _ => pure_light _
    · exact pure_light _

private theorem unsignedNumber_light (sign : String) : Leads Light (unsignedNumber sign) := by
  refine token_light.bind fun _ => ?_
  split
  · exact advance_light.bind fun _ => pure_light _
  · exact fail_light _

private theorem number_light : Leads Light number :=
  (atSymbol_light _).bind fun _ => (atSymbol_light _).bind fun _ =>
    Leads.ite (advance_light.bind fun _ => unsignedNumber_light _) (unsignedNumber_light _)

/-- The hint of a point of focus is kept apart from the patterns. -/
private theorem pointOfFocus_light (role : Role) : Leads Light (pointOfFocus role) := by
  have hfail : ∀ (t : Token) (cause : Cause) (f : PUnit → Parser Term), Leads Light (failAt t cause >>= f) :=
    fun _ _ _ => Light.refl
  refine advance_light.bind fun t => get_light.bind fun s => Leads.ite (hfail _ _ _) ?_
  refine Leads.bind (fun _ => ⟨rfl, rfl, rfl, rfl⟩) fun _ => ?_
  dsimp only
  split
  · refine Leads.ite (hfail _ _ _) (Leads.ite (hfail _ _ _) ?_)
    exact Leads.bind (fun _ => ⟨rfl, rfl, rfl, rfl⟩) fun _ => pure_light _
  · refine (resolve_light _ _).bind fun _ => Leads.bind (fun _ => ⟨rfl, rfl, rfl, rfl⟩) fun _ => pure_light _
  · refine Leads.bind (fun s => ?_) fun _ => pure_light _
    rw [collect_apply, Scope.setKeyword]
    split
    · exact Light.refl _
    · exact ⟨rfl, rfl, rfl, rfl⟩
  · exact pure_light _

private theorem simpleTerm_light (role : Role) : Leads Light (simpleTerm role) := by
  have hnumber : Leads Light (do return Term.literal (← number)) := number_light.bind fun _ => pure_light _
  refine token_light.bind fun t => ?_
  split
  · exact pointOfFocus_light role
  · exact advance_light.bind fun _ => pure_light _
  · exact advance_light.bind fun _ => pure_light _
  · exact advance_light.bind fun _ => (resolveName_light _).bind fun _ => pure_light _
  · exact advance_light.bind fun _ => pure_light _
  · exact textLiteral_light.bind fun _ => pure_light _
  · exact hnumber
  · exact hnumber
  · exact hnumber
  · exact hnumber
  · exact hnumber
  · exact Leads.ite (advance_light.bind fun _ => pure_light _) (fail_light _)

private theorem graphNode_light (role : Role) : Leads Light (graphNode role) :=
  (atSymbol_light _).bind fun _ => Leads.ite
    (advance_light.bind fun _ => (expectSymbol_light _).bind fun _ => freshVariable_light) (simpleTerm_light role)

/-! ### Verbs -/

private theorem separated_light {α : Type} {x : Symbol} {item : Parser α} (h : Leads Light item) :
    ∀ bound, Leads Light (separated x item bound)
  | 0 => fail_light _
  | bound + 1 => (atSymbol_light _).bind fun _ => Leads.ite
      (advance_light.bind fun _ => h.bind fun _ => (separated_light h bound).bind fun _ => pure_light _)
      (pure_light _)

private theorem pathPrimary_light {inner : Parser Term} (h : Leads Light inner) : Leads Light (pathPrimary inner) := by
  refine token_light.bind fun t => ?_
  split
  · exact advance_light.bind fun _ => pure_light _
  · exact advance_light.bind fun _ => (resolveName_light _).bind fun _ => pure_light _
  · exact advance_light.bind fun _ => h.bind fun _ => (expectSymbol_light _).bind fun _ => pure_light _
  · exact fail_light _
  · exact Leads.ite (advance_light.bind fun _ => pure_light _) (fail_light _)

private theorem pathStepRest_light {inner : Parser Term} (h : Leads Light inner) (inverse : Bool) :
    Leads Light (pathStepRest inner inverse) :=
  (pathPrimary_light h).bind fun _ => token_light.bind fun _ =>
    Leads.ite ((fail_light _).bind fun _ => pure_light _) (pure_light _)

private theorem pathStep_light {inner : Parser Term} (h : Leads Light inner) : Leads Light (pathStep inner) := by
  rw [pathStep_eq]
  exact (atSymbol_light _).bind fun inverse =>
    Leads.ite (advance_light.bind fun _ => pathStepRest_light h inverse) (pathStepRest_light h inverse)

private theorem pathSequence_light {inner : Parser Term} (h : Leads Light inner) (bound : Nat) :
    Leads Light (pathSequence bound inner) := by
  refine (pathStep_light h).bind fun first => (separated_light (pathStep_light h) bound).bind fun rest => ?_
  split
  · exact pure_light _
  · exact pure_light _

private theorem path_light : ∀ bound, Leads Light (path bound)
  | 0 => fail_light _
  | bound + 1 => by
    have hitem := pathSequence_light (path_light bound) bound
    refine hitem.bind fun first => (separated_light hitem bound).bind fun rest => ?_
    split
    · exact pure_light _
    · exact pure_light _

private theorem verb_light (bound : Nat) : Leads Light (verb bound) := by
  refine token_light.bind fun t => ?_
  split
  · exact pointOfFocus_light _
  · exact advance_light.bind fun _ => pure_light _
  · exact path_light bound

/-! ### Blank nodes and collections leave the pattern under construction as it was -/

private theorem Leads.restores {α : Type} {m : Parser α} (h : Leads Light m) : Leads Restores m :=
  h.mono fun _ _ => Light.current

-- Nothing is asked of the step: what it does to the pattern under construction is undone also where it stops.
private theorem nested_restores {α : Type} (step : Parser α) : Leads Restores (nested step) := fun _ => rfl

private theorem items_restores {object : Parser Term} (h : Leads Restores object) (opening : Token) :
    ∀ bound, Leads Restores (items object opening bound)
  | 0 => (fail_light _).restores
  | bound + 1 => token_light.restores.bind fun _ => Leads.ite (advance_light.bind fun _ => pure_light _).restores
      (Leads.ite (failAt_light _ _).restores
        (h.bind fun _ => (items_restores h opening bound).bind fun _ => (pure_light _).restores))

private theorem freshNodes_light : ∀ terms, Leads Light (freshNodes terms)
  | [] => pure_light _
  | _ :: rest => freshVariable_light.bind fun _ => (freshNodes_light rest).bind fun _ => pure_light _

private theorem blankNode_restores (object : Parser Term) (bound : Nat) : Leads Restores (blankNode object bound) :=
  (expectSymbol_light _).restores.bind fun _ => freshVariable_light.restores.bind fun _ =>
    (nested_restores _).bind fun _ => ((expectSymbol_light _).bind fun _ => pure_light _).restores

private theorem collection_restores {object : Parser Term} (h : Leads Restores object) (bound : Nat) :
    Leads Restores (collection object bound) := by
  refine (expectSymbol_light _).restores.bind fun opening => (items_restores h opening bound).bind fun terms =>
    (freshNodes_light terms).restores.bind fun nodes => ?_
  split
  · exact (pure_light _).restores
  · exact (nested_restores _).bind fun _ => (pure_light _).restores

private theorem object_restores : ∀ bound, Leads Restores (object bound)
  | 0 => (fail_light _).restores
  | bound + 1 => atBlankNode_light.restores.bind fun _ => Leads.ite (blankNode_restores _ bound)
      ((atSymbol_light _).restores.bind fun _ => Leads.ite (collection_restores (object_restores bound) bound)
        (graphNode_light _).restores)

/-! ### Triples append their patterns -/

private theorem Leads.appends {α : Type} {m : Parser α} (h : Leads Light m) : Leads Appends m :=
  h.mono fun _ _ => Light.appends

/-- A change of the scope that what was collected survives. -/
private theorem collect_appends {change : Scope → Scope} (h : ∀ scope, Grows scope (change scope)) :
    Leads Appends (collect change) := fun s => h s.scope

private theorem setSubject_appends (t : Term) : Leads Appends (collect (Scope.setSubject t)) :=
  collect_appends fun _ => ⟨List.prefix_refl _, List.prefix_refl _, rfl⟩

private theorem setPredicate_appends (t : Term) : Leads Appends (collect (Scope.setPredicate t)) :=
  collect_appends fun _ => ⟨List.prefix_refl _, List.prefix_refl _, rfl⟩

private theorem setObject_appends (t : Term) : Leads Appends (collect (Scope.setObject t)) :=
  collect_appends fun _ => ⟨List.prefix_refl _, List.prefix_refl _, rfl⟩

private theorem collectPattern_appends : Leads Appends collectPattern := by
  intro s
  simp only [collectPattern, bind_apply, get_apply]
  unfold Scope.addPattern
  rcases s.scope.current with ⟨_ | subject, _ | predicate, _ | object⟩
  case some.some.some => exact ⟨List.prefix_append _ _, List.prefix_refl _, rfl⟩
  -- where a part is missing the step stops with the scope as it was
  all_goals exact (throw_light Error.incomplete).appends s

private theorem nested_appends {α : Type} {step : Parser α} (h : Leads Appends step) : Leads Appends (nested step) := by
  intro s
  obtain ⟨hpatterns, hlabels, hprojection⟩ := h { s with scope := { s.scope with current := {} } }
  exact ⟨hpatterns, hlabels, hprojection⟩

section

variable {object : Parser Term} (h : Leads Appends object)

include h

private theorem objects_appends : ∀ bound, Leads Appends (objects object bound)
  | 0 => (fail_light _).appends
  | bound + 1 => h.bind fun t => (setObject_appends t).bind fun _ => collectPattern_appends.bind fun _ =>
      (atSymbol_light _).appends.bind fun _ => Leads.ite
        (advance_light.appends.bind fun _ => objects_appends bound) (pure_light _).appends

private theorem objectList_appends (bound : Nat) (predicate : Term) :
    Leads Appends (objectList object bound predicate) :=
  token_light.appends.bind fun _ => Leads.ite (objects_appends h bound)
    (Leads.ite ((setObject_appends _).bind fun _ => collectPattern_appends)
      (token_light.bind fun _ => fail_light _).appends)

private theorem propertyList_appends : ∀ bound, Leads Appends (propertyList object bound)
  | 0 => (fail_light _).appends
  | bound + 1 => (verb_light bound).appends.bind fun predicate => (setPredicate_appends predicate).bind fun _ =>
      (objectList_appends h bound predicate).bind fun _ => (atSymbol_light _).appends.bind fun _ => Leads.ite
        (skipSemicolons_light.appends.bind fun _ => token_light.appends.bind fun _ =>
          Leads.ite (propertyList_appends bound) (pure_light _).appends)
        (pure_light _).appends

private theorem blankNode_appends (bound : Nat) : Leads Appends (blankNode object bound) := by
  refine (expectSymbol_light _).appends.bind fun _ => freshVariable_light.appends.bind fun node => ?_
  refine (nested_appends ?_).bind fun _ => ((expectSymbol_light _).bind fun _ => pure_light _).appends
  exact (setSubject_appends node).bind fun _ => token_light.appends.bind fun _ => Leads.ite
    ((fail_light _).appends.bind fun _ => propertyList_appends h bound) (propertyList_appends h bound)

private theorem items_appends (opening : Token) : ∀ bound, Leads Appends (items object opening bound)
  | 0 => (fail_light _).appends
  | bound + 1 => token_light.appends.bind fun _ => Leads.ite (advance_light.bind fun _ => pure_light _).appends
      (Leads.ite (failAt_light _ _).appends
        (h.bind fun _ => (items_appends opening bound).bind fun _ => (pure_light _).appends))

omit h in
private theorem linkNodes_appends : ∀ pairs, Leads Appends (linkNodes pairs)
  | [] => (pure_light _).appends
  | (node, item) :: rest => by
    have hlink : ∀ subject predicate object, Leads Appends (link subject predicate object) := fun _ _ _ =>
      (setSubject_appends _).bind fun _ => (setPredicate_appends _).bind fun _ => (setObject_appends _).bind fun _ =>
        collectPattern_appends
    exact (hlink _ _ _).bind fun _ => (hlink _ _ _).bind fun _ => linkNodes_appends rest

private theorem collection_appends (bound : Nat) : Leads Appends (collection object bound) := by
  refine (expectSymbol_light _).appends.bind fun opening => (items_appends h opening bound).bind fun terms =>
    (freshNodes_light terms).appends.bind fun nodes => ?_
  split
  · exact (pure_light _).appends
  · exact (nested_appends (linkNodes_appends _)).bind fun _ => (pure_light _).appends

end

private theorem object_appends : ∀ bound, Leads Appends (object bound)
  | 0 => (fail_light _).appends
  | bound + 1 => atBlankNode_light.appends.bind fun _ => Leads.ite (blankNode_appends (object_appends bound) bound)
      ((atSymbol_light _).appends.bind fun _ => Leads.ite (collection_appends (object_appends bound) bound)
        (graphNode_light _).appends)

private theorem triplesRest_appends (bound : Nat) (isBlank isCollection : Bool) (subject : Term) :
    Leads Appends (triplesRest bound isBlank isCollection subject) :=
  (setSubject_appends subject).bind fun _ => token_light.appends.bind fun _ => Leads.ite
    (propertyList_appends (object_appends bound) bound)
    (Leads.ite (token_light.bind fun _ => fail_light _).appends (pure_light _).appends)

private theorem triples_appends (bound : Nat) : Leads Appends (triples bound) := by
  rw [triples_eq]
  refine atBlankNode_light.appends.bind fun isBlank => (atSymbol_light _).appends.bind fun isCollection => ?_
  have hrest := triplesRest_appends bound isBlank isCollection
  refine Leads.ite ((blankNode_appends (object_appends bound) bound).bind hrest) ?_
  exact Leads.ite ((collection_appends (object_appends bound) bound).bind hrest) ((graphNode_light _).appends.bind hrest)

/-! ### Groups -/

private theorem constraintRest_light : Leads Light constraintRest :=
  (atKeyword_light _).bind fun _ => Leads.ite (advance_light.bind fun _ => skipBracket_light _ _)
    (token_light.bind fun _ => get_light.bind fun _ =>
      Leads.ite (advance_light.bind fun _ => skipBrackets_light) (fail_light _))

private theorem constraint_light : Leads Light constraint := by
  rw [constraint_eq]
  exact (atSymbol_light _).bind fun _ => skipBrackets_light.ite ((atKeyword_light _).bind fun _ => Leads.ite
    (advance_light.bind fun _ => (expectKeyword_light _).bind fun _ => constraintRest_light) constraintRest_light)

private theorem values_light : Leads Light values :=
  token_light.bind fun _ => Leads.ite (advance_light.bind fun _ => skipBracket_light _ _)
    ((skipBracket_light _ _).bind fun _ => skipBracket_light _ _)

section

variable {group : Parser Unit} (h : Leads Appends group)

include h

private theorem namedGroup_appends (keyword : String) : Leads Appends (namedGroup group keyword) := by
  have hname : Leads Appends (do let _ ← simpleTerm .subject; group) := (simpleTerm_light _).appends.bind fun _ => h
  unfold namedGroup
  refine Leads.ite ((skipKeyword_light _).appends.bind fun _ => ?_) ?_
  all_goals
    refine token_light.appends.bind fun _ => ?_
    split
    · exact hname
    · exact hname
    · exact hname
    · exact (fail_light _).appends

private theorem element_appends : Leads Appends (element group) :=
  advance_light.appends.bind fun _ => h.ite (Leads.ite (namedGroup_appends h _) (Leads.ite constraint_light.appends
    (Leads.ite (skipBracket_light _ _).appends values_light.appends)))

private theorem unions_appends : ∀ bound, Leads Appends (unions group bound)
  | 0 => (fail_light _).appends
  | bound + 1 => (atKeyword_light _).appends.bind fun _ => Leads.ite
      (advance_light.appends.bind fun _ => h.bind fun _ => unions_appends bound) (pure_light _).appends

private theorem elements_appends (opening : Token) : ∀ bound, Leads Appends (elements group opening bound)
  | 0 => (fail_light _).appends
  | bound + 1 => by
    have hrest := elements_appends opening bound
    refine token_light.appends.bind fun t => ?_
    split
    · exact (advance_light.bind fun _ => pure_light _).appends
    · exact (failAt_light _ _).appends
    · exact advance_light.appends.bind fun _ => hrest
    · exact h.bind fun _ => (unions_appends h bound).bind fun _ => hrest
    · refine Leads.ite ((element_appends h).bind fun _ => hrest) ?_
      refine (triples_appends bound).bind fun _ => token_light.appends.bind fun _ => Leads.ite ?_ hrest
      exact token_light.appends.bind fun _ => (fail_light (α := Unit) _).appends.bind fun _ => hrest

end

private theorem group_appends : ∀ bound, Leads Appends (group bound)
  | 0 => (fail_light _).appends
  | bound + 1 => by
    have hrest : ∀ opening, Leads Appends (elements (group bound) opening bound) :=
      fun opening => elements_appends (group_appends bound) opening bound
    exact (expectSymbol_light _).appends.bind fun opening => (atKeyword_light _).appends.bind fun _ =>
      Leads.ite ((fail_light _).appends.bind fun _ => hrest opening) (hrest opening)

/-! ### Before and after the group -/

/-- A label that is declared again keeps its place, and a new one comes last. -/
private theorem labels_setEntry {α : Type} (entries : List (String × α)) (key : String) (value : α) :
    entries.map (·.1) <+: (Data.setEntry entries key value).map (·.1) := by
  unfold Data.setEntry
  split
  · have hsame : (entries.map fun entry => if entry.1 = key then (key, value) else entry).map (·.1) = entries.map (·.1) := by
      rw [List.map_map]
      refine List.map_congr_left fun entry _ => ?_
      by_cases h : entry.1 = key <;> simp [h]
    exact hsame ▸ List.prefix_refl _
  · rw [List.map_append]
    exact List.prefix_append _ _

private theorem prologue_appends : ∀ bound, Leads Appends (prologue bound)
  | 0 => (fail_light _).appends
  | bound + 1 => by
    have hdeclare : ∀ change : String → Scope → Scope, (∀ iri scope, Grows scope (change iri scope)) →
        Leads Appends (prologueRest change bound) := fun change hgrows =>
      (expectIri_light _).appends.bind fun iri => (collect_appends (hgrows iri)).bind fun _ => prologue_appends bound
    have hbase : Leads Appends (prologueRest Scope.setBase bound) :=
      hdeclare _ fun _ _ => ⟨List.prefix_refl _, List.prefix_refl _, rfl⟩
    have hlabel : ∀ label, Leads Appends (prologueRest (Scope.addPrefix label) bound) := fun label =>
      hdeclare _ fun _ _ => ⟨List.prefix_refl _, labels_setEntry _ _ _, rfl⟩
    refine (atKeyword_light _).appends.bind fun _ => Leads.ite ?_ ((atKeyword_light _).appends.bind fun _ => Leads.ite ?_
      (pure_light _).appends)
    · exact advance_light.appends.bind fun _ => hbase
    · exact advance_light.appends.bind fun _ => (expect_light _ _).appends.bind fun t =>
        Leads.ite ((failAt_light _ _).appends.bind fun _ => hlabel _) (hlabel _)

private theorem projections_light : ∀ bound, Leads Light (projections bound)
  | 0 => fail_light _
  | bound + 1 => by
    have hrest : Leads Light (do return (← projections bound) + 1) := (projections_light bound).bind fun _ => pure_light _
    refine token_light.bind fun t => ?_
    split
    · exact advance_light.bind fun _ => hrest
    · exact skipBrackets_light.bind fun _ => hrest
    · exact pure_light _

private theorem selectClause_light (bound : Nat) : Leads Light (selectClause bound) :=
  (expectKeyword_light _).bind fun _ => (skipKeyword_light _).bind fun _ => (atSymbol_light _).bind fun _ =>
    Leads.ite (advance_light.bind fun _ => pure_light _)
      ((projections_light bound).bind fun _ => (fail_light _).ite (pure_light _))

private theorem datasets_light : ∀ bound, Leads Light (datasets bound)
  | 0 => fail_light _
  | bound + 1 => (atKeyword_light _).bind fun _ => Leads.ite
      (advance_light.bind fun _ => (skipKeyword_light _).bind fun _ => token_light.bind fun _ => Leads.ite
        (advance_light.bind fun _ => (resolveName_light _).bind fun _ => datasets_light bound)
        ((expectIri_light _).bind fun _ => datasets_light bound))
      (pure_light _)

private theorem skipCondition_light : ∀ bound, Leads Light (skipCondition bound)
  | 0 => fail_light _
  | bound + 1 => by
    have hrest : Leads Light (do return (← skipCondition bound) + 1) :=
      (skipCondition_light bound).bind fun _ => pure_light _
    exact token_light.bind fun _ => Leads.ite (pure_light _)
      (Leads.ite (skipBrackets_light.bind fun _ => hrest) (advance_light.bind fun _ => hrest))

private theorem condition_light (bound : Nat) : Leads Light (condition bound) :=
  (skipCondition_light bound).bind fun _ => (fail_light _).ite (pure_light _)

private theorem modifiers_light : ∀ bound, Leads Light (modifiers bound)
  | 0 => fail_light _
  | bound + 1 => by
    have hrest := modifiers_light bound
    have hcondition : Leads Light (do condition bound; modifiers bound) := (condition_light bound).bind fun _ => hrest
    refine token_light.bind fun t => Leads.ite (pure_light _) (Leads.ite ?_ (Leads.ite ?_ (Leads.ite ?_ ?_)))
    · exact advance_light.bind fun _ => (expect_light _ _).bind fun _ => hrest
    · exact advance_light.bind fun _ => (expectKeyword_light _).bind fun _ => hcondition
    · exact advance_light.bind fun _ => hcondition
    · exact (fail_light (α := Unit) _).bind fun _ => hrest

private theorem query_appends (bound : Nat) : Leads Appends (query bound) :=
  (prologue_appends bound).bind fun _ => (selectClause_light bound).appends.bind fun _ =>
    (datasets_light bound).appends.bind fun _ => (skipKeyword_light _).appends.bind fun _ =>
      (group_appends bound).bind fun _ => (modifiers_light bound).appends.bind fun _ =>
        ((expect_light _ _).bind fun _ => pure_light _).appends

private theorem parseInto_grows (scope : Scope) (text : List Char) : Grows scope (parseInto scope text).2 := by
  unfold parseInto
  cases tokens text with
  | error e => exact Grows.refl scope
  | ok ts => exact query_appends (ts.length + 2) { ahead := ts, last := .eof text.length, scope }

/-- Whatever the scope, no pattern is added before its three parts were read. -/
theorem parseInto_ne_incomplete (scope : Scope) (text : List Char) : (parseInto scope text).1 ≠ .error .incomplete := by
  unfold parseInto
  cases htokens : tokens text with
  | error e => cases e <;> exact nofun
  | ok ts => exact fun h => parseTokens_stops scope ts (text_ne_of_sign htokens) h

end PointOfFocus.Query

namespace PointOfFocus

open Query

/-- Whether the text is read or the reading stops at a fault: the patterns and the declared labels that were there are in
front of those that it adds, and the template, its further values and the projection are as before. Every blank node with
predicates and every collection leaves the pattern under construction as it was, at any depth and however it ends, and no
reading stops with a pattern that lacks a part. -/
theorem Session.parse_appends (s : Session) :
    (s.scope.patterns <+: (s.run .parse).2.scope.patterns ∧
      (s.run .parse).2.template = s.template ∧
      (s.run .parse).2.context = s.context ∧
      (s.run .parse).2.scope.projection = s.scope.projection ∧
      s.scope.prefixes.map (·.1) <+: (s.run .parse).2.scope.prefixes.map (·.1)) ∧
    (∀ bound before, (blankNode (object bound) bound before).2.scope.current = before.scope.current ∧
      (collection (object bound) bound before).2.scope.current = before.scope.current) ∧
    (s.run .parse).1 ≠ .error (.query s.text.toList .incomplete) := by
  have hread := readInto_eq_parseInto s.scope s.progress s.text.toList
  have hgrows := parseInto_grows s.scope s.text.toList
  have hresult := parseInto_ne_incomplete s.scope s.text.toList
  rw [← hread] at hgrows hresult
  refine ⟨⟨hgrows.patterns, rfl, rfl, hgrows.projection, hgrows.labels⟩, fun bound before => ?_, ?_⟩
  · exact ⟨blankNode_restores _ bound before, collection_restores (object_restores bound) bound before⟩
  · intro h
    simp only [Session.run] at h
    rcases hrun : (readInto s.scope s.progress s.text.toList).1 with e | u
    · rw [hrun] at h hresult
      cases h
      exact hresult rfl
    · rw [hrun] at h
      cases h

end PointOfFocus
