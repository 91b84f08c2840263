import PointOfFocus.Completion
import PointOfFocus.Proofs.Scope.Component

/-!
# The text of a recommendation query

The template for recommendation queries, filled with a scope whose patterns can be written, gives a text with one line
for each pattern, and at most one line for the keyword and one for the start of the IRIs (`render_recommendation`).
-/

namespace PointOfFocus.Template

open PointOfFocus.Text (escape)

/-- The line of a pattern that is written as given. -/
def patternLine (written : String) : String := "  " ++ written ++ "\n"

/-- The line of a filter by a text, if there is one that is not empty. -/
def filterText (before after : String) (text : Option String) : String :=
  match text with
  | some t => if t = "" then "" else before ++ String.ofList (escape t.toList) ++ after
  | none => ""

/-- The recommendation query of a scope whose patterns are written as given. -/
def recommendationText (s : Scope) (written : List String) : String :=
  "SELECT DISTINCT " ++ s.projection ++ "\nWHERE \x7b\n" ++ String.join (written.map patternLine) ++
    filterText "  FILTER regex(?POF, \"" "\", \"i\")\n" s.keyword ++
    filterText "  FILTER strstarts(str(?POF), \"" "\")\n" s.iriStart ++ "\x7d\nLIMIT 10\n"

/-- Nodes print one after the other. -/
theorem renderNodes_cons {bindings : Bindings} {node : Node} {rest : List Node} {first others : String}
    (hnode : node.render bindings = .ok (first, bindings))
    (hrest : renderNodes bindings rest = .ok (others, bindings)) :
    renderNodes bindings (node :: rest) = .ok (first ++ others, bindings) := by
  simp only [renderNodes, hnode, hrest, bind, Except.bind, pure, Except.pure]

/-- Text is printed as it stands and binds nothing. -/
theorem render_text (bindings : Bindings) (text : String) :
    (Node.text text).render bindings = .ok (text, bindings) := by
  rw [Node.render]

/-- A name is printed as the text that it is bound to. -/
theorem render_printName {bindings : Bindings} {word text : String} (h : lookup bindings word = .text text) :
    (Node.print (.name word)).render bindings = .ok (text, bindings) := by
  simp only [Node.render, Expr.valueIn, Expr.eval, h, bind, Except.bind, pure, Except.pure, Datum.print]

/-- A filter line is written if its text is there. -/
theorem render_filterLine {bindings : Bindings} {word : String} {text : Option String} (before after : String)
    (h : lookup bindings word = .ofText? text) :
    (filterLine before word after).render bindings = .ok (filterText before after text, bindings) := by
  cases text with
  | none =>
    simp [filterLine, filterText, Node.render, renderNodes, Expr.valueIn, Expr.eval, h, Datum.ofText?, Datum.isTrue, bind,
      Except.bind]
  | some t =>
    by_cases ht : t = ""
    · simp [filterLine, filterText, Node.render, renderNodes, Expr.valueIn, Expr.eval, h, Datum.ofText?, Datum.isTrue, ht,
        bind, Except.bind]
    · simp [filterLine, filterText, Node.render, renderNodes, Expr.valueIn, Expr.eval, evalArguments, h, Datum.ofText?,
        Datum.isTrue, ht, bind, Except.bind, pure, Except.pure, Datum.filtered, Filter.signature?, Signature.bind,
        Signature.nameFault?, Signature.missing, Signature.later, Except.mapError, Datum.filteredBy, Datum.escaped,
        Datum.asText?, Datum.print, String.append_assoc]

/-! ### Loops -/

section Loop

variable {α ε : Type} {item : α → Datum} {line : α → Except ε String} {wrap : String → String} {word : String}
  {body : List Node}

private theorem rounds_texts (bindings : Bindings) (items : List Datum) {xs : List α} {texts : List String}
    (hbody : ∀ x text rest, line x = .ok text →
      renderNodes ((word, item x) :: rest) body = .ok (wrap text, (word, item x) :: rest))
    (h : xs.mapM line = .ok texts) (n : Nat) :
    ∃ rounds, (((xs.map item).zipIdx n).mapM fun (v, i) => do
        renderNodes (← roundBindings bindings (.name word) items (i + 1) v) body) = .ok rounds ∧
      rounds.map (·.1) = texts.map wrap := by
  induction xs generalizing texts n with
  | nil => cases h; exact ⟨[], rfl, rfl⟩
  | cons x xs ih =>
    rw [List.mapM_cons] at h
    cases hx : line x with
    | error e => rw [hx] at h; cases h
    | ok text =>
      cases hxs : xs.mapM line with
      | error e => rw [hx, hxs] at h; cases h
      | ok others =>
        rw [hx, hxs] at h
        cases h
        obtain ⟨rounds, hrounds, htexts⟩ := ih hxs (n + 1)
        have hround := hbody x text (("loop", .progress (n + 1) items) :: bindings) hx
        refine ⟨(wrap text, (word, item x) :: ("loop", .progress (n + 1) items) :: bindings) :: rounds, ?_,
          by simp [htexts]⟩
        rw [List.map_cons, List.zipIdx_cons, List.mapM_cons]
        simp only [roundBindings, Target.bind, bind, Except.bind, hround, pure, Except.pure] at hrounds ⊢
        rw [hrounds]

/-- A loop writes what its body writes for each item in turn. -/
theorem render_loop {bindings : Bindings} {source : String} {row : Nat} {xs : List α} {texts : List String}
    (hsource : lookup bindings source = .list (xs.map item))
    (hbody : ∀ x text rest, line x = .ok text →
      renderNodes ((word, item x) :: rest) body = .ok (wrap text, (word, item x) :: rest))
    (h : xs.mapM line = .ok texts) :
    (Node.loop (.name word) (.name source) none body [] row).render bindings =
      .ok (String.join (texts.map wrap), bindings) := by
  rw [Node.render]
  simp only [Expr.valueIn, Expr.eval, hsource, Datum.items, selected, bind, Except.bind, pure, Except.pure]
  cases xs with
  | nil =>
    cases h
    rfl
  | cons x xs =>
    obtain ⟨rounds, hrounds, htexts⟩ := rounds_texts bindings ((x :: xs).map item) hbody h 0
    simp only [bind, Except.bind] at hrounds
    simp only [List.map_cons, List.isEmpty_cons, Bool.false_eq_true, ↓reduceIte] at hrounds ⊢
    rw [hrounds]
    simp only [htexts]

end Loop

/-! ### Lines of patterns -/

/-- The nodes for the line of a pattern. -/
def lineNodes : List Node :=
  [.text "  ", .print (.member (.name "tp") "s"), .text " ", .print (.member (.name "tp") "p"), .text " ",
    .print (.member (.name "tp") "o"), .text " .\n"]

private theorem patternLines_eq : patternLines = .loop (.name "tp") (.name "tps") none lineNodes [] 1 := rfl

/-- The latest binding of a name counts. -/
theorem lookup_cons (bindings : Bindings) (word : String) (v : Datum) : lookup ((word, v) :: bindings) word = v := by
  simp [lookup, Data.valueOf?]

/-- The terms of a pattern that can be written can be written. -/
theorem render_parts {p : Pattern} {text : String} (h : p.render = .ok text) : ∃ s q o,
    p.subject.render = .ok s ∧ p.predicate.renderPredicate = .ok q ∧ p.object.render = .ok o ∧
      text = s ++ " " ++ q ++ " " ++ o ++ " ." := by
  unfold Pattern.render at h
  cases hs : p.subject.render with
  | error e => rw [hs] at h; cases h
  | ok s =>
    cases hq : p.predicate.renderPredicate with
    | error e => rw [hs, hq] at h; cases h
    | ok q =>
      cases ho : p.object.render with
      | error e => rw [hs, hq, ho] at h; cases h
      | ok o =>
        rw [hs, hq, ho] at h
        cases h
        exact ⟨s, q, o, rfl, rfl, rfl, rfl⟩

private theorem render_lineNodes {bindings : Bindings} {p : Pattern} {text : String}
    (hp : lookup bindings "tp" = .pattern p)
    (h : p.render = .ok text) : renderNodes bindings lineNodes = .ok (patternLine text, bindings) := by
  obtain ⟨s, q, o, hs, hq, ho, rfl⟩ := render_parts h
  simp [lineNodes, renderNodes, Node.render, Expr.valueIn, Expr.eval, hp, Datum.member, Datum.member?,
    Datum.patternMember?, hs, hq, ho, bind, Except.bind, pure, Except.pure, Except.map, Except.mapError, Datum.print,
    patternLine, String.append_assoc]

/-- Each round of the loop over the patterns writes the line of one of them. -/
theorem render_patternLines {bindings : Bindings} {ps : List Pattern} {written : List String}
    (hps : lookup bindings "tps" = .list (ps.map .pattern)) (h : ps.mapM Pattern.render = .ok written) :
    patternLines.render bindings = .ok (String.join (written.map patternLine), bindings) := by
  rw [patternLines_eq]
  exact render_loop hps (fun p text rest hp => render_lineNodes (lookup_cons rest "tp" (.pattern p)) hp) h

/-! ### The whole query -/

theorem recommendation_nodes : recommendation.nodes =
    [.text "SELECT DISTINCT ", .print (.name "pof"), .text "\nWHERE \x7b\n", patternLines,
      filterLine "  FILTER regex(?POF, \"" "keyword" "\", \"i\")\n",
      filterLine "  FILTER strstarts(str(?POF), \"" "prefix" "\")\n", .text "\x7d\nLIMIT 10\n"] := rfl

private theorem render_of_mapM {ps : List Pattern} {written : List String} (h : ps.mapM Pattern.render = .ok written) :
    ∀ p ∈ ps, ∃ text, p.render = .ok text := by
  induction ps generalizing written with
  | nil => simp
  | cons p ps ih =>
    rw [List.mapM_cons] at h
    cases hp : p.render with
    | error e => rw [hp] at h; cases h
    | ok text =>
      cases hps : ps.mapM Pattern.render with
      | error e => rw [hp, hps] at h; cases h
      | ok others => exact List.forall_mem_cons.2 ⟨⟨text, hp⟩, ih hps⟩

/-- The subject at the point of focus is found if all patterns can be written. -/
private theorem focusSubject_of_render (s : Scope) {ps : List Pattern} (h : ∀ p ∈ ps, ∃ text, p.render = .ok text) :
    ∃ subject, Scope.focusSubject.find s ps = .ok subject := by
  induction ps with
  | nil => exact ⟨none, rfl⟩
  | cons p ps ih =>
    obtain ⟨⟨text, hp⟩, hps⟩ := List.forall_mem_cons.1 h
    obtain ⟨keys, hkeys⟩ := Pattern.keys_of_render hp
    obtain ⟨subject, _, _, hsubject, _⟩ := render_parts hp
    simp only [Scope.focusSubject.find, hkeys, hsubject, bind, Except.bind, pure, Except.pure]
    split
    · exact ⟨some subject, rfl⟩
    · exact ih hps

/-- A template prints what its nodes print with the lines of the scope's patterns. -/
theorem render_of_nodes {template : Template} {s : Scope} {context : List (String × Data.Value)} {written : List String}
    {text : String} (hself : context.any (·.1 = "self") = false) (h : s.patterns.mapM Pattern.render = .ok written)
    (hnodes : ∀ subject, renderNodes (scopeBindings s subject context) template.nodes =
      .ok (text, scopeBindings s subject context)) : template.render s context = .ok text := by
  obtain ⟨subject, hsubject⟩ := focusSubject_of_render s (render_of_mapM h)
  simp only [render, Scope.focusSubject, hsubject, hself, hnodes, Except.mapError, Bool.false_eq_true, ↓reduceIte,
    bind, Except.bind, pure, Except.pure]

private theorem render_recommendationNodes {b : Bindings} {s : Scope} {written : List String}
    (hpof : lookup b "pof" = .text s.projection) (htps : lookup b "tps" = .list (s.patterns.map .pattern))
    (hkeyword : lookup b "keyword" = .ofText? s.keyword) (hstart : lookup b "prefix" = .ofText? s.iriStart)
    (h : s.patterns.mapM Pattern.render = .ok written) :
    renderNodes b recommendation.nodes = .ok (recommendationText s written, b) := by
  have hend : renderNodes b [] = .ok ("", b) := by rw [renderNodes]
  have hrun := renderNodes_cons (render_text b "SELECT DISTINCT ") <| renderNodes_cons (render_printName hpof) <|
    renderNodes_cons (render_text b "\nWHERE \x7b\n") <| renderNodes_cons (render_patternLines htps h) <|
    renderNodes_cons (render_filterLine "  FILTER regex(?POF, \"" "\", \"i\")\n" hkeyword) <|
    renderNodes_cons (render_filterLine "  FILTER strstarts(str(?POF), \"" "\")\n" hstart) <|
    renderNodes_cons (render_text b "\x7d\nLIMIT 10\n") hend
  rw [String.append_empty] at hrun
  unfold recommendationText
  simp only [recommendation_nodes, String.append_assoc]
  exact hrun

/-- A scope whose patterns can be written has a recommendation query. -/
theorem render_recommendation {s : Scope} {written : List String} (h : s.patterns.mapM Pattern.render = .ok written) :
    recommendation.render s [] = .ok (recommendationText s written) := by
  refine render_of_nodes rfl h fun subject => render_recommendationNodes ?_ ?_ ?_ ?_ h
  all_goals rfl

end PointOfFocus.Template
