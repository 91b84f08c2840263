import PointOfFocus.Proofs.Template.Recommendation

/-!
# The texts of counting queries

The template for counting queries and the one for popularity queries, filled with a scope whose patterns can be
written, both have one line for each pattern (`render_counting`, `render_popularity`). The popularity query has no
filters; it has the rows of the candidates instead.
-/

namespace PointOfFocus.Template

open PointOfFocus.Data (Value)

/-- The value of a graph that may be given. -/
def graphValue (graph : Option String) : Value := (graph.map Value.text).getD .null

/-- The line of the graph, if there is one whose name is not empty. -/
def graphText : Option String → String
  | some g => if g = "" then "" else "FROM <" ++ g ++ ">\n"
  | none => ""

/-- The hop variables of a path with spaces between them. -/
def hopsText (s : Scope) : String := " ".intercalate (hopNames s.pathLength)

/-- The line of the variables by which occurrences are counted. -/
def groupText (s : Scope) : String :=
  "\x7d\nGROUP BY " ++ (if hopNames s.pathLength = [] then "?POF" else hopsText s) ++ "\n"

/-- The line of the candidates that are counted, as rows of values. -/
def valuesText (s : Scope) (rows : List String) : String :=
  (if hopNames s.pathLength = [] then "  VALUES ?POF" else "  VALUES (" ++ hopsText s ++ ")") ++
    " \x7b " ++ String.join (rows.map (· ++ " ")) ++ "\x7d\n"

/-- What stands before the patterns of a counting query. -/
def headText (s : Scope) (graph : Option String) : String :=
  "SELECT " ++ s.projection ++ " (count(*) as ?count)\n" ++ graphText graph ++ "WHERE \x7b\n"

/-- The counting query of a scope whose patterns are written as given. -/
def countingText (s : Scope) (graph : Option String) (written : List String) : String :=
  headText s graph ++ String.join (written.map patternLine) ++
    filterText "  FILTER regex(?POF, \"" "\", \"i\")\n" s.keyword ++
    filterText "  FILTER strstarts(str(?POF), \"" "\")\n" s.iriStart ++ groupText s

/-- The popularity query for rows of values, of a scope whose patterns are written as given. -/
def popularityText (s : Scope) (graph : Option String) (rows written : List String) : String :=
  headText s graph ++ valuesText s rows ++ String.join (written.map patternLine) ++ groupText s

/-! ### Lines -/

private theorem render_graphLine {bindings : Bindings} {graph : Option String}
    (h : lookup bindings "graph" = .ofValue (graphValue graph)) :
    graphLine.render bindings = .ok (graphText graph, bindings) := by
  cases graph with
  | none =>
    simp [graphLine, graphText, graphValue, Node.render, renderNodes, Expr.valueIn, Expr.eval, h, Datum.ofValue,
      Datum.isTrue, bind, Except.bind]
  | some g =>
    by_cases hg : g = ""
    · simp [graphLine, graphText, graphValue, Node.render, renderNodes, Expr.valueIn, Expr.eval, h, Datum.ofValue,
        Datum.isTrue, hg, bind, Except.bind]
    · have hname : lookup bindings "graph" = .text g := h
      have hbody := renderNodes_cons (render_text bindings "FROM <") <| renderNodes_cons (render_printName hname) <|
        renderNodes_cons (render_text bindings ">\n") (by rw [renderNodes])
      rw [String.append_empty] at hbody
      simp only [graphLine, graphText, Node.render, Expr.valueIn, Expr.eval, hname, Datum.isTrue, hg, bind, Except.bind,
        ne_eq, not_false_eq_true, decide_true, ↓reduceIte]
      exact hbody

private theorem mapM_print (texts : List String) : (texts.map Datum.text).mapM Datum.print = .ok texts := by
  induction texts with
  | nil => rfl
  | cons text texts ih =>
    rw [List.map_cons, List.mapM_cons, ih]
    rfl

private theorem ofValues_texts (texts : List String) : Datum.ofValues (texts.map .text) = texts.map .text := by
  induction texts with
  | nil => rfl
  | cons text texts ih => simp only [List.map_cons, Datum.ofValues, Datum.ofValue, ih]

private theorem join_texts (texts : List String) (separator : String) :
    Datum.join (.ofTexts texts) (.text separator) .none = .ok (.text (separator.intercalate texts)) := by
  have hprint : Datum.print (.text separator) = .ok separator := rfl
  simp only [Datum.join, Datum.ofTexts, Datum.items, hprint, mapM_print, bind, Except.bind, pure, Except.pure]

private theorem eval_hopList {bindings : Bindings} {hops : List String} (h : lookup bindings "hops" = .ofTexts hops) :
    hopList.valueIn bindings = .ok (.text (" ".intercalate hops)) := by
  simp [hopList, Expr.valueIn, Expr.eval, evalArguments, h, Arguments.add, bind, Except.bind, pure, Except.pure,
    Datum.filtered, Filter.signature?, Signature.bind, Signature.nameFault?, Signature.missing, Signature.later,
    Except.mapError, Datum.filteredBy, Datum.ofValue, Data.valueOf?, join_texts]

private theorem render_print {bindings : Bindings} {e : Expr} {text : String}
    (h : e.valueIn bindings = .ok (.text text)) : (Node.print e).render bindings = .ok (text, bindings) := by
  simp only [Node.render, h, Datum.print, bind, Except.bind, pure, Except.pure]

/-- Each round of the loop over the rows writes one of them. -/
private theorem render_candidates {bindings : Bindings} {rows : List String}
    (h : lookup bindings "values" = .list (rows.map .text)) :
    renderNodes bindings candidates =
      .ok (" \x7b " ++ String.join (rows.map (· ++ " ")) ++ "\x7d\n", bindings) := by
  have hbody : ∀ row text rest, (Except.ok row : Except Unit String) = .ok text →
      renderNodes (("value", .text row) :: rest) [.print (.name "value"), .text " "] =
        .ok (text ++ " ", ("value", .text row) :: rest) := by
    rintro row _ rest ⟨⟩
    have hrow := renderNodes_cons (render_printName (lookup_cons rest "value" (.text row))) <|
      renderNodes_cons (render_text _ " ") (by rw [renderNodes])
    rwa [String.append_empty] at hrow
  have hrows : rows.mapM (Except.ok : String → Except Unit String) = .ok rows :=
    (List.mapM_pure (m := Except Unit) (f := id)).trans (by rw [List.map_id]; rfl)
  have hloop : (Node.loop (.name "value") (.name "values") none [.print (.name "value"), .text " "] [] 1).render
      bindings = .ok (String.join (rows.map (· ++ " ")), bindings) := render_loop h hbody hrows
  have hrun := renderNodes_cons (render_text bindings " \x7b ") <|
    renderNodes_cons hloop <| renderNodes_cons (render_text bindings "\x7d\n") (by rw [renderNodes])
  rw [String.append_empty] at hrun
  rw [String.append_assoc]
  exact hrun

section

variable {bindings : Bindings} {s : Scope} (hhops : lookup bindings "hops" = .ofTexts (hopNames s.pathLength))
include hhops

private theorem isTrue_hops : (Expr.name "hops").valueIn bindings = .ok (.ofTexts (hopNames s.pathLength)) ∧
    (Datum.ofTexts (hopNames s.pathLength)).isTrue = .ok (decide (hopNames s.pathLength ≠ [])) := by
  refine ⟨by rw [Expr.valueIn, Expr.eval, hhops], ?_⟩
  cases hopNames s.pathLength with
  | nil => rfl
  | cons hop hops => rfl

private theorem render_groupLine : renderNodes bindings groupLine = .ok (groupText s, bindings) := by
  have hchoice : (Expr.choice (.name "hops") hopList (.constant (.text "?POF"))).valueIn bindings =
      .ok (.text (if hopNames s.pathLength = [] then "?POF" else hopsText s)) := by
    have hlist : hopList.eval (fun word => .ok (lookup bindings word)) = _ := eval_hopList hhops
    simp only [Expr.valueIn, Expr.eval, hhops, Datum.ofTexts, Datum.isTrue, bind, Except.bind, hlist]
    by_cases hnone : hopNames s.pathLength = []
    · simp [hnone, Datum.ofValue]
    · simp [hnone, hopsText]
  have hrun := renderNodes_cons (render_text bindings "\x7d\nGROUP BY ") <| renderNodes_cons (render_print hchoice) <|
    renderNodes_cons (render_text bindings "\n") (by rw [renderNodes])
  rw [String.append_empty] at hrun
  simp only [groupLine, groupText, String.append_assoc]
  exact hrun

private theorem render_values {rows : List String} (hvalues : lookup bindings "values" = .list (rows.map .text)) :
    (Node.branch (.name "hops") ([.text "  VALUES (", .print hopList, .text ")"] ++ candidates)
      ([.text "  VALUES ?POF"] ++ candidates)).render bindings = .ok (valuesText s rows, bindings) := by
  have hrows := render_candidates hvalues
  obtain ⟨hvalue, htrue⟩ := isTrue_hops hhops
  rw [Node.render]
  simp only [hvalue, htrue, bind, Except.bind]
  unfold valuesText
  by_cases hnone : hopNames s.pathLength = []
  · have hrun := renderNodes_cons (render_text bindings "  VALUES ?POF") hrows
    simp only [hnone, String.append_assoc] at hrun ⊢
    exact hrun
  · have hrun := renderNodes_cons (render_text bindings "  VALUES (") <|
      renderNodes_cons (render_print (eval_hopList hhops)) <| renderNodes_cons (render_text bindings ")") hrows
    simp only [hnone, String.append_assoc, hopsText, ne_eq, not_false_eq_true, decide_true, ↓reduceIte] at hrun ⊢
    exact hrun

end

/-! ### The whole queries -/

/-- A scope whose patterns can be written has a counting query. -/
theorem render_counting {s : Scope} {graph : Option String} {written : List String}
    (h : s.patterns.mapM Pattern.render = .ok written) :
    counting.render s [("graph", graphValue graph)] = .ok (countingText s graph written) := by
  refine render_of_nodes rfl h fun subject => ?_
  generalize hb : scopeBindings s subject [("graph", graphValue graph)] = b
  have hpof : lookup b "pof" = .text s.projection := by subst hb; rfl
  have hgraph : lookup b "graph" = .ofValue (graphValue graph) := by subst hb; rfl
  have htps : lookup b "tps" = .list (s.patterns.map .pattern) := by subst hb; rfl
  have hkeyword : lookup b "keyword" = .ofText? s.keyword := by subst hb; rfl
  have hstart : lookup b "prefix" = .ofText? s.iriStart := by subst hb; rfl
  have hhops : lookup b "hops" = .ofTexts (hopNames s.pathLength) := by subst hb; rfl
  have hrun := renderNodes_cons (render_text b "SELECT ") <| renderNodes_cons (render_printName hpof) <|
    renderNodes_cons (render_text b " (count(*) as ?count)\n") <| renderNodes_cons (render_graphLine hgraph) <|
    renderNodes_cons (render_text b "WHERE \x7b\n") <| renderNodes_cons (render_patternLines htps h) <|
    renderNodes_cons (render_filterLine "  FILTER regex(?POF, \"" "\", \"i\")\n" hkeyword) <|
    renderNodes_cons (render_filterLine "  FILTER strstarts(str(?POF), \"" "\")\n" hstart) (render_groupLine hhops)
  unfold countingText headText
  simp only [String.append_assoc]
  exact hrun

/-- A scope whose patterns can be written has a popularity query for any rows. -/
theorem render_popularity {s : Scope} {graph : Option String} {rows written : List String}
    (h : s.patterns.mapM Pattern.render = .ok written) :
    popularity.render s [("graph", graphValue graph), ("values", .list (rows.map .text))] =
      .ok (popularityText s graph rows written) := by
  refine render_of_nodes rfl h fun subject => ?_
  generalize hb : scopeBindings s subject [("graph", graphValue graph), ("values", .list (rows.map .text))] = b
  have hpof : lookup b "pof" = .text s.projection := by subst hb; rfl
  have hgraph : lookup b "graph" = .ofValue (graphValue graph) := by subst hb; rfl
  have htps : lookup b "tps" = .list (s.patterns.map .pattern) := by subst hb; rfl
  have hhops : lookup b "hops" = .ofTexts (hopNames s.pathLength) := by subst hb; rfl
  have hvalues : lookup b "values" = .list (rows.map .text) := by
    subst hb
    rw [← ofValues_texts]
    rfl
  have hrun := renderNodes_cons (render_text b "SELECT ") <| renderNodes_cons (render_printName hpof) <|
    renderNodes_cons (render_text b " (count(*) as ?count)\n") <| renderNodes_cons (render_graphLine hgraph) <|
    renderNodes_cons (render_text b "WHERE \x7b\n") <| renderNodes_cons (render_values hhops hvalues) <|
    renderNodes_cons (render_patternLines htps h) (render_groupLine hhops)
  unfold popularityText headText
  simp only [String.append_assoc]
  exact hrun

end PointOfFocus.Template
