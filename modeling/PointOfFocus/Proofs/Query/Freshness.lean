import PointOfFocus.Proofs.Query.Change
import PointOfFocus.Proofs.Query.Focus

/-!
# Generated variables

The parser makes up a variable for every blank node in brackets and every node of a collection, and fills in a fixed one
where the point of focus has no object. A name alone does not tell such a variable from one of the text. So the
variables of the text are marked before it is read, with a character that no name has: a variable of the patterns
without the mark was generated. Taking the marks away gives the patterns of the text itself (`parse_marked`), because
the parser hands names on as they are.

The parser does not look whether a name is taken. It generates no other names than `FillVar` and `_anon` with a number,
and the text may have these as well (`parse_generated`, `generated_taken`).
-/

namespace PointOfFocus.Query

open PointOfFocus.Rdf

/-! ### Changing names -/

/-- The token, with another name if it is a variable. -/
def Token.renamed (f : String → String) (t : Token) : Token :=
  if t.kind = .var then { t with text := "?" ++ f (dropFirst 1 t.text) } else t

/-- The term, with another name if it is a variable. -/
def renameTerm (f : String → String) : Term → Term
  | .var x => .var (f x)
  | t => t

private theorem renamed_kind (f : String → String) (t : Token) : (t.renamed f).kind = t.kind := by
  unfold Token.renamed
  split <;> rfl

private theorem renamed_of_ne {f : String → String} {t : Token} (h : t.kind ≠ .var) : t.renamed f = t := if_neg h

private theorem renamed_name {f : String → String} {t : Token} (h : t.kind = .var) :
    dropFirst 1 (t.renamed f).text = f (dropFirst 1 t.text) := by
  rw [Token.renamed, if_pos h]
  exact dropFirst_mark '?' _

private theorem renamed_renamed (f g : String → String) (t : Token) : (t.renamed g).renamed f = t.renamed (f ∘ g) := by
  by_cases h : t.kind = .var
  · have hname := renamed_name (f := g) h
    have hkind := (renamed_kind g t).trans h
    unfold Token.renamed at hname hkind ⊢
    simp only [h, ↓reduceIte, Function.comp_apply] at hname hkind ⊢
    rw [hname]
  · rw [renamed_of_ne h, renamed_of_ne h, renamed_of_ne h]

private theorem renameTerm_of_notVar {f : String → String} {t : Term} (h : NotVar t) : renameTerm f t = t := by
  cases t with
  | var x => exact absurd rfl (h x)
  | _ => rfl

private theorem renameTerm_eq_var {f : String → String} {t : Term} {x : String} (h : renameTerm f t = .var x) :
    ∃ y, t = .var y ∧ f y = x := by
  cases t with
  | var y => exact ⟨y, rfl, Term.var.inj h⟩
  | _ => cases h

/-- Other names for the variables of the text, which leave the names that the parser knows alone. -/
def changeNames (f : String → String) (hfocus : ∀ x, f x = "POF" ↔ x = "POF") (hown : ∀ x, IsOwn x → f x = x) :
    Change where
  token := Token.renamed f
  term _ := renameTerm f
  kind := renamed_kind f
  text t h := by rw [renamed_of_ne h]
  name _ t h := by rw [renamed_name h]; rfl
  focus t h := by rw [renamed_name h]; exact hfocus _
  own _ x h := congrArg Term.var (hown x h)
  other _ t h _ := renameTerm_of_notVar h

private theorem changeNames_id_scope (s : Scope) : (changeNames id (fun _ => Iff.rfl) fun _ _ => rfl).scope s = s := by
  have hterm : renameTerm id = id := by
    funext t
    cases t <;> rfl
  simp only [Change.scope, Change.cursor, changeNames, hterm, Option.map_id, id_eq]
  exact congrArg (fun ps => { s with patterns := ps }) (List.map_id s.patterns)

/-! ### Marks -/

/-- The name with a mark in front; the name of the focus stays. -/
def mark (x : String) : String := if x = "POF" then x else "?" ++ x

/-- Whether the name has a mark. -/
def isMarked (x : String) : Bool := x.toList.head? = some '?'

/-- The name without its mark. -/
def unmark (x : String) : String := if isMarked x && dropFirst 1 x ≠ "POF" then dropFirst 1 x else x

private theorem unmark_mark (x : String) : unmark (mark x) = x := by
  by_cases hx : x = "POF"
  · subst hx
    decide
  · have hname : dropFirst 1 ("?" ++ x) = x := dropFirst_mark '?' x
    have hmarked : isMarked ("?" ++ x) = true := by simp [isMarked]
    simp only [mark, hx, ↓reduceIte, unmark, hname, hmarked, Bool.true_and, ne_eq, not_false_eq_true, decide_true]

private theorem unmark_of_isMarked {x : String} (h : isMarked x = false) : unmark x = x := by simp [unmark, h]

private theorem isMarked_of_isOwn {x : String} (h : IsOwn x) : isMarked x = false := by
  obtain rfl | rfl | ⟨n, rfl⟩ := h
  · decide
  · decide
  · simp [isMarked]

private theorem unmark_eq_focus (x : String) : unmark x = "POF" ↔ x = "POF" := by
  constructor
  · intro h
    unfold unmark at h
    split at h
    next hmarked => simp [h] at hmarked
    · exact h
  · rintro rfl
    decide

/-- Taking the marks away. -/
def unmarking : Change := changeNames unmark unmark_eq_focus fun _ h => unmark_of_isMarked (isMarked_of_isOwn h)

/-- With marks the text is read as without them, and then the marks can be taken away. -/
private theorem reading_marked {ts : List Token} {length : Nat} {s : Scope} (h : reading ts length = some s) :
    ∃ marked, reading (ts.map (Token.renamed mark)) length = some marked ∧ unmarking.scope marked = s := by
  -- Marking a variable also turns `$` into `?`, so taking the marks away does not give back the tokens themselves, only
  -- tokens that are read as they are.
  have hplain : reading (ts.map (Token.renamed id)) length = some s := by
    have hmap := (changeNames id (fun _ => Iff.rfl) fun _ _ => rfl).reading_map ts length rfl
    rw [h, Option.map_some, changeNames_id_scope] at hmap
    exact hmap
  have hunmark := unmarking.reading_map (ts.map (Token.renamed mark)) length rfl
  have htokens : (ts.map (Token.renamed mark)).map unmarking.token = ts.map (Token.renamed id) := by
    have hcomp : unmark ∘ mark = id := funext unmark_mark
    rw [List.map_map, ← hcomp]
    exact List.map_congr_left fun t _ => renamed_renamed unmark mark t
  rw [htokens, hplain] at hunmark
  exact Option.map_eq_some_iff.1 hunmark.symm

/-! ### Variables of the patterns -/

/-- The variables of the patterns. -/
def variablesOf (ps : List Pattern) : List String :=
  ps.flatMap fun p => [p.subject, p.predicate, p.object].filterMap fun
    | .var x => some x
    | _ => none

private theorem mem_variablesOf {x : String} {ps : List Pattern} : x ∈ variablesOf ps ↔ Occurs (.var x) ps := by
  have hvar : ∀ t : Term, (match t with
      | .var y => some y
      | _ => none) = some x ↔ t = .var x := by
    intro t
    cases t <;> simp
  simp only [variablesOf, List.mem_flatMap, List.mem_filterMap, hvar]
  constructor
  · rintro ⟨p, hp, t, ht, rfl⟩
    simp only [List.mem_cons, List.not_mem_nil, or_false] at ht
    obtain h | h | h := ht
    · exact ⟨p, hp, .subject, h.symm⟩
    · exact ⟨p, hp, .predicate, h.symm⟩
    · exact ⟨p, hp, .object, h.symm⟩
  · rintro ⟨p, hp, role, hrole⟩
    refine ⟨p, hp, .var x, ?_, rfl⟩
    rw [← hrole]
    cases role <;> simp [Pattern.term]

private theorem Change.pattern_term (c : Change) (p : Pattern) (role : Role) :
    (c.pattern p).term role = c.term role (p.term role) := by
  cases role <;> rfl

/-- A variable of the patterns is written among the tokens, or its name is one that the parser knows. -/
private theorem reading_variables {ts : List Token} {length : Nat} {s : Scope} (h : reading ts length = some s)
    {x : String} (hx : Occurs (.var x) s.patterns) : (∃ t ∈ ts, t.kind = .var ∧ dropFirst 1 t.text = x) ∨ IsOwn x := by
  by_contra hnone
  simp only [IsOwn, not_or, not_exists, not_and] at hnone
  obtain ⟨hwritten, hfocus, hfiller, hmadeUp⟩ := hnone
  have hforeign : Foreign x { ahead := ts, last := .eof length, scope := {} } := ⟨hwritten, rfl, hfiller, hmadeUp⟩
  unfold reading parseTokens at h
  cases hrun : query (ts.length + 2) { ahead := ts, last := .eof length, scope := {} } with
  | mk result after =>
    rw [hrun] at h
    cases result with
    | error e => cases h
    | ok u =>
      cases h
      obtain ⟨new, hwalk⟩ := query_walks _ _ hforeign u after hrun
      have hpatterns : after.scope.patterns = new := by simpa using hwalk.patterns
      have hzero : tally x new = 0 := hwalk.accounts.eq_zero hfocus
      obtain ⟨p, hp, role, hrole⟩ := hx
      have hcount := congrFun hzero role
      rw [tally, Pi.zero_apply, List.countP_eq_zero] at hcount
      exact hcount p (hpatterns ▸ hp) (isVarNamed_iff.2 hrole)

/-! ### Generated variables -/

/-- The variables that the parser generates when the text is read: those without a mark if all variables of the text
have one. -/
def generatedVariables (text : List Char) : List String :=
  match tokens text with
  | .error _ => []
  | .ok ts =>
    match reading (ts.map (Token.renamed mark)) text.length with
    | none => []
    | some marked => (variablesOf marked.patterns).filter fun x => !isMarked x && x ≠ "POF"

/-- The patterns of a text are those with marks, without the marks; what has no mark was generated. -/
theorem parse_marked {text : List Char} {s : Scope} (h : parse text = .ok s) : ∃ ts marked, tokens text = .ok ts ∧
    reading (ts.map (Token.renamed mark)) text.length = some marked ∧
      s.patterns = marked.patterns.map unmarking.pattern ∧
    generatedVariables text = (variablesOf marked.patterns).filter fun x => !isMarked x && x ≠ "POF" := by
  cases htokens : tokens text with
  | error e =>
    rw [parse, parseInto, htokens] at h
    cases h
  | ok ts =>
    have hreading : reading ts text.length = some s := by
      rw [← toOption_parse htokens, h]
      rfl
    obtain ⟨marked, hmarked, rfl⟩ := reading_marked hreading
    exact ⟨ts, marked, rfl, hmarked, rfl, by simp only [generatedVariables, htokens, hmarked]⟩

private theorem mem_writtenVariables {text : List Char} {ts : List Token} (h : tokens text = .ok ts) {x : String} :
    x ∈ writtenVariables text ↔ ∃ t ∈ ts, t.kind = .var ∧ dropFirst 1 t.text = x := by
  simp only [writtenVariables, h, List.mem_map, List.mem_filter, decide_eq_true_eq, and_assoc]

/-- A variable with marks all over the text has a mark itself, or it is generated. -/
theorem marked_variables {text : List Char} {ts : List Token} {marked : Scope} (h : tokens text = .ok ts)
    (hmarked : reading (ts.map (Token.renamed mark)) text.length = some marked) {y : String}
    (hy : Occurs (.var y) marked.patterns) : (∃ x ∈ writtenVariables text, y = mark x) ∨ IsOwn y := by
  refine (reading_variables hmarked hy).imp_left ?_
  rintro ⟨t, ht, hkind, rfl⟩
  obtain ⟨source, hsource, rfl⟩ := List.mem_map.1 ht
  rw [renamed_kind] at hkind
  exact ⟨dropFirst 1 source.text, (mem_writtenVariables h).2 ⟨source, hsource, hkind, rfl⟩, renamed_name hkind⟩

/-- The variables of the patterns are the one of the focus, those of the text and the generated ones. A generated
variable is named `FillVar` or `_anon` with a number, so only a variable of the text with such a name can be the
same. -/
theorem parse_generated {text : List Char} {s : Scope} (h : parse text = .ok s) :
    (∀ x, Occurs (.var x) s.patterns → x = "POF" ∨ x ∈ writtenVariables text ∨ x ∈ generatedVariables text) ∧
      ∀ x ∈ generatedVariables text, Occurs (.var x) s.patterns ∧
        (x = "FillVar" ∨ ∃ n : Nat, x = "_anon" ++ n.repr) := by
  obtain ⟨ts, marked, htokens, hmarked, hpatterns, hgenerated⟩ := parse_marked h
  have hmem : ∀ y, y ∈ generatedVariables text ↔ Occurs (.var y) marked.patterns ∧ isMarked y = false ∧ y ≠ "POF" := by
    intro y
    rw [hgenerated, List.mem_filter, mem_variablesOf]
    simp
  constructor
  · rintro x ⟨p, hp, role, hrole⟩
    rw [hpatterns] at hp
    obtain ⟨q, hq, rfl⟩ := List.mem_map.1 hp
    rw [Change.pattern_term] at hrole
    obtain ⟨y, hy, rfl⟩ := renameTerm_eq_var hrole
    have hoccurs : Occurs (.var y) marked.patterns := ⟨q, hq, role, hy⟩
    -- With its mark the variable is one of the text; without a mark the parser put it there.
    obtain ⟨x, hx, rfl⟩ | hown := marked_variables htokens hmarked hoccurs
    · rw [unmark_mark]
      exact .inr (.inl hx)
    · have hunmarked := isMarked_of_isOwn hown
      rw [unmark_of_isMarked hunmarked]
      by_cases hfocus : y = "POF"
      · exact .inl hfocus
      · exact .inr (.inr ((hmem y).2 ⟨hoccurs, hunmarked, hfocus⟩))
  · intro x hx
    obtain ⟨hoccurs, hunmarked, hfocus⟩ := (hmem x).1 hx
    constructor
    · obtain ⟨q, hq, role, hrole⟩ := hoccurs
      refine ⟨unmarking.pattern q, hpatterns ▸ List.mem_map_of_mem hq, role, ?_⟩
      rw [Change.pattern_term, hrole]
      exact congrArg Term.var (unmark_of_isMarked hunmarked)
    · obtain ⟨y, -, rfl⟩ | hown := marked_variables htokens hmarked hoccurs
      · -- a name of the text has a mark, unless it is the name of the focus
        unfold mark at hunmarked hfocus
        split at hfocus
        next hy => exact absurd hy hfocus
        next hy => simp [hy, isMarked] at hunmarked
      · exact hown.resolve_left hfocus

/-- One variable is made up for the brackets and one is filled in for the missing object. -/
theorem parse_generated_both : ∃ s, parse "SELECT * \x7b [] <p> ?x . ?s < \x7d".toList = .ok s ∧
    generatedVariables "SELECT * \x7b [] <p> ?x . ?s < \x7d".toList = ["_anon0", "FillVar"] ∧
    Occurs (.var "_anon0") s.patterns ∧ Occurs (.var "FillVar") s.patterns := by
  have hread :
      ((parse "SELECT * \x7b [] <p> ?x . ?s < \x7d".toList).toOption.map fun s => s.patterns.length) = some 2 := by
    decide +kernel
  have hnames : generatedVariables "SELECT * \x7b [] <p> ?x . ?s < \x7d".toList = ["_anon0", "FillVar"] := by
    decide +kernel
  obtain ⟨s, hparse, -⟩ := exists_ok_of_map hread
  have hgenerated := (parse_generated hparse).2
  exact ⟨s, hparse, hnames, (hgenerated "_anon0" (by rw [hnames]; simp)).1,
    (hgenerated "FillVar" (by rw [hnames]; simp)).1⟩

/-- The variable that is filled in for a missing object has one name, whatever the variables of the text are. -/
theorem generated_taken : ¬ ∀ (text : List Char) (s : Scope), parse text = .ok s →
    ∀ x ∈ generatedVariables text, x ∉ writtenVariables text := by
  intro hfresh
  have hread : ((parse "SELECT * \x7b ?FillVar < \x7d".toList).toOption.map fun s => s.patterns.length) = some 1 := by
    decide +kernel
  have hboth : "FillVar" ∈ generatedVariables "SELECT * \x7b ?FillVar < \x7d".toList ∧
      "FillVar" ∈ writtenVariables "SELECT * \x7b ?FillVar < \x7d".toList := by decide +kernel
  obtain ⟨s, hparse, -⟩ := exists_ok_of_map hread
  exact hfresh _ s hparse "FillVar" hboth.1 hboth.2

end PointOfFocus.Query
