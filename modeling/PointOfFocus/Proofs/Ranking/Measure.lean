import PointOfFocus.Proofs.Completion
import PointOfFocus.Proofs.Endpoint.Reporting
import PointOfFocus.Proofs.Number.Range
import PointOfFocus.Proofs.Ranking.Rank
import PointOfFocus.Proofs.Template.Counting
import PointOfFocus.Ranking.Measure

/-!
# The course of a measurement

A measurement sends at most two queries (`measure_run`). A query that cannot be read sends none. Otherwise the first
query counts the candidates, and only if it brings one that can be bound again does the second query count these once
more. The patterns of both queries are the same, and the report is on just what the two answers say.
-/

namespace PointOfFocus.Ranking

open PointOfFocus.Data
open PointOfFocus.Endpoint
open PointOfFocus.Number (Binary64)
open PointOfFocus.Template (countingText popularityText graphValue)

/-! ### Ranking -/

/-- The values of the table are described, and its counts are integers of the floating-point range. -/
structure Countable (t : Table) : Prop where
  described : t.Described
  counts : ∀ binding ∈ t.bindings, ∃ n, countOf (.dict binding) = .ok n ∧ Binary64.InRange n

/-- The binding binds the point of focus. -/
def BindsFocus (binding : Binding) : Prop := (valueOf? binding "POF").isSome

private theorem seen_eq_nil_iff (bindings : List Binding) : seen bindings = [] ↔ ∀ b ∈ bindings, ¬BindsFocus b := by
  rw [seen, List.map_eq_nil_iff, List.eq_nil_iff_forall_not_mem]
  constructor
  · intro h b hb hbinds
    obtain ⟨description, hdescription⟩ := Option.isSome_iff_exists.1 hbinds
    exact h _ (mem_texts.2 ⟨b, hb, by rw [text?, focus?, hdescription, Option.map_some, Option.map_some]⟩)
  · intro h text htext
    obtain ⟨b, hb, hvalue⟩ := mem_texts.1 htext
    refine h b hb ?_
    have hsome : (text? b).isSome := by rw [hvalue, Option.isSome_some]
    simpa [text?, focus?, BindsFocus] using hsome

private theorem firstItems_eq_nil_iff {α : Type} {top : Int} (htop : 1 ≤ top) (items : List α) :
    firstItems top items = [] ↔ items = [] := by
  have hneg : ¬top < 0 := by omega
  rw [firstItems, if_neg hneg, List.take_eq_nil_iff]
  have hpos : top.toNat ≠ 0 := by omega
  simp [hpos]

private theorem byCount_eq_nil_iff (candidates : List Candidate) : byCount candidates = [] ↔ candidates = [] := by
  rw [← List.length_eq_zero_iff, byCount, List.length_mergeSort, List.length_eq_zero_iff]

/-- A table that can be counted is ranked, and it has no candidate if and only if no binding binds the focus. -/
theorem Countable.rank {t : Table} (h : Countable t) {top : Int} (htop : 1 ≤ top) :
    ∃ best, rank (t.bindings.map .dict) top = .ok best ∧ (best = [] ↔ ∀ b ∈ t.bindings, ¬BindsFocus b) := by
  have hcounts : ∀ b ∈ t.bindings, ∃ n, countOf (.dict b) = .ok n := fun b hb =>
    (h.counts b hb).imp fun _ hn => hn.1
  refine ⟨_, Rankable.rank_eq ⟨h.described, hcounts⟩ top, ?_⟩
  rw [firstItems_eq_nil_iff htop, byCount_eq_nil_iff, seen_eq_nil_iff]

/-! ### Rows of values -/

/-- The candidate can be bound again: it is no blank node, and where a path is sought it is written as the IRIs of as
many hops as the path has. -/
def Candidate.CanBeBound (pathLength : Int) (c : Candidate) : Prop :=
  c.isBindable = true ∧ (pathLength ≠ 0 → ((splitHops c.value.toList).length : Int) = pathLength ∧
    ∀ hop ∈ splitHops c.value.toList, (unbracketed? hop).isSome)

instance (pathLength : Int) (c : Candidate) : Decidable (c.CanBeBound pathLength) :=
  inferInstanceAs (Decidable (_ ∧ _))

/-- All items are mapped if and only if each of them is. -/
theorem isSome_mapM {α β : Type} {f : α → Option β} {xs : List α} :
    (xs.mapM f).isSome ↔ ∀ x ∈ xs, (f x).isSome := by
  induction xs with
  | nil => simp
  | cons x xs ih =>
    rw [List.mapM_cons, List.forall_mem_cons, ← ih]
    cases f x with
    | none => simp
    | some y => cases xs.mapM f <;> simp

/-- A candidate has a row if and only if it can be bound again. -/
theorem Candidate.isSome_valuesRow {pathLength : Int} {c : Candidate} {row : Option String}
    (h : c.valuesRow pathLength = .ok row) : row.isSome ↔ c.CanBeBound pathLength := by
  unfold valuesRow at h
  unfold CanBeBound
  by_cases hbindable : c.isBindable = true
  · by_cases hlength : pathLength = 0
    · simp only [hbindable, hlength, Bool.not_true, Bool.false_eq_true, ↓reduceIte] at h
      cases hrender : c.render with
      | error e => rw [hrender] at h; cases h
      | ok text =>
        rw [hrender] at h
        cases h
        simp [hbindable, hlength]
    · simp only [hbindable, hlength, Bool.not_true, Bool.false_eq_true, ↓reduceIte, ← isSome_mapM] at h ⊢
      cases hiris : (splitHops c.value.toList).mapM unbracketed? with
      | none =>
        simp only [hiris] at h
        cases h
        simp [hlength]
      | some iris =>
        simp only [hiris] at h
        by_cases hhops : ((splitHops c.value.toList).length : Int) = pathLength
        · rw [if_neg (by simpa using hhops)] at h
          cases hterms : iris.mapM fun iri => (Rdf.Term.iri (String.ofList iri)).render with
          | error e => rw [hterms] at h; cases h
          | ok terms =>
            rw [hterms] at h
            cases h
            simp [hhops]
        · rw [if_pos hhops] at h
          cases h
          simp [hlength, hhops]
  · simp only [hbindable, Bool.not_false, ↓reduceIte] at h
    cases h
    simp [hbindable]

private theorem exists_mapM {α β ε : Type} {f : α → Except ε β} {P : β → Prop} {xs : List α}
    (h : ∀ x ∈ xs, ∃ y, f x = .ok y ∧ P y) :
    ∃ ys, xs.mapM f = .ok ys ∧ List.Forall₂ (fun x y => f x = .ok y) xs ys ∧ ∀ y ∈ ys, P y := by
  induction xs with
  | nil => exact ⟨[], rfl, .nil, by simp⟩
  | cons x xs ih =>
    obtain ⟨⟨y, hy, hP⟩, hxs⟩ := List.forall_mem_cons.1 h
    obtain ⟨ys, hys, hall, hPs⟩ := ih hxs
    exact ⟨y :: ys, by rw [List.mapM_cons, hy, hys]; rfl, .cons hy hall, List.forall_mem_cons.2 ⟨hP, hPs⟩⟩

private theorem forall₂_rows {pathLength : Int} {best : List Candidate} {found : List (Option String)}
    (h : List.Forall₂ (fun c row => c.valuesRow pathLength = .ok row) best found) :
    List.Forall₂ (fun c row => c.valuesRow pathLength = .ok (some row)) (best.filter (·.CanBeBound pathLength))
      (found.filterMap id) := by
  induction h with
  | nil => exact .nil
  | @cons c row best found hrow _ ih =>
    have hbound := Candidate.isSome_valuesRow hrow
    cases row with
    | none => simpa [← hbound] using ih
    | some text =>
      have hc : c.CanBeBound pathLength := hbound.1 rfl
      rw [List.filter_cons_of_pos (by simpa using hc)]
      exact .cons hrow ih

/-- The rows are those of the candidates that can be bound again, in order. -/
private theorem exists_valueRows {pathLength : Int} {best : List Candidate}
    (h : ∀ c ∈ best, ∃ row, c.valuesRow pathLength = .ok row) :
    ∃ rows, valueRows pathLength best = .ok rows ∧
      List.Forall₂ (fun c row => c.valuesRow pathLength = .ok (some row)) (best.filter (·.CanBeBound pathLength))
        rows := by
  have hrows : ∀ c ∈ best, ∃ row, (c.valuesRow pathLength).mapError Error.candidate = .ok row ∧ True := by
    intro c hc
    obtain ⟨row, hrow⟩ := h c hc
    exact ⟨row, by rw [hrow]; rfl, trivial⟩
  obtain ⟨found, hfound, hall, -⟩ := exists_mapM hrows
  refine ⟨found.filterMap id, by simp only [valueRows, hfound]; rfl, forall₂_rows (hall.imp fun c row hrow => ?_)⟩
  cases hc : c.valuesRow pathLength with
  | error e => rw [hc] at hrow; cases hrow
  | ok row' =>
    rw [hc] at hrow
    cases hrow
    rfl

/-! ### Reports -/

private theorem foldl_add (first : Int) (others : List Int) : others.foldl (· + ·) first = (first :: others).sum := by
  induction others generalizing first with
  | nil => simp
  | cons n others ih =>
    rw [List.foldl_cons, ih, List.sum_cons, List.sum_cons, List.sum_cons, Int.add_assoc]

/-- Counts within the floating-point range have a report. -/
private theorem ofCounts_inRange {first : Int} {others : List Int} (h : ∀ n ∈ first :: others, Binary64.InRange n)
    (candidates : List Candidate) (elapsed : Binary64) (queries : List String) :
    Report.ofCounts candidates elapsed queries first others =
      .ok { candidates, popularity := first :: others, least := others.foldl min first,
            greatest := others.foldl max first, elapsed, queries,
            mean := Binary64.ofQuotient (first :: others).sum (first :: others).length } := by
  have hmean := Binary64.ofQuotient_mean (List.cons_ne_nil first others) h
  unfold Report.ofCounts
  simp only [foldl_add]
  split
  next sign hsign => exact absurd hsign (hmean sign)
  next => rfl

/-! ### The course of a measurement -/

/-- The scope of the query, prepared for being asked, and its patterns as they are written. -/
def Asked (query : String) (s : Scope) (written : List String) : Prop :=
  ∃ parsed, Query.parse query.toList = .ok parsed ∧ parsed.prepare = (.ok (), s) ∧
    s.patterns.mapM Pattern.render = .ok written

private theorem exists_asked {query : String} {parsed : Scope} (h : Query.parse query.toList = .ok parsed) :
    ∃ s written, Asked query s written := by
  obtain ⟨_, s, written, hs, hwritten, -⟩ := Scope.recommendationQuery_of_parse h
  exact ⟨s, written, parsed, h, hs.prepare, hwritten⟩

private theorem Asked.prepared {query : String} {s : Scope} {written : List String} (h : Asked query s written)
    {template : Template} {context : List (String × Value)} {text : String}
    (htext : template.render s context = .ok text) :
    prepared query (.ok template) context = .ok (text, s) := by
  obtain ⟨parsed, hparsed, hprepare, -⟩ := h
  simp only [Ranking.prepared, hparsed, Scope.recommendationQuery, hprepare, htext, Except.mapError, bind, Except.bind,
    pure, Except.pure]

/-- The fault of a result that is a failure. -/
def faultOf (r : Result) (failure : Failure) : Fault := { url := r.url, statusCode := r.statusCode, failure }

private theorem table_ok {r : Result} {table : Table} (h : r.outcome = .ok table) : r.table = .ok table := by
  rw [Result.table, h]
  rfl

private theorem table_error {r : Result} {failure : Failure} (h : r.outcome = .error failure) :
    r.table = .error (faultOf r failure) := by
  rw [Result.table, h]
  rfl

/-- The report is on the candidates and on the counts of a table that is not empty. -/
structure Report.IsOn (candidates : List Candidate) (elapsed : Binary64) (queries : List String) (t : Table)
    (r : Report) : Prop where
  candidates : r.candidates = candidates
  popularity : List.Forall₂ (fun b n => countOf (.dict b) = .ok n) t.bindings r.popularity
  least : r.popularity.min? = some r.least
  greatest : r.popularity.max? = some r.greatest
  mean : r.mean = Binary64.ofQuotient r.popularity.sum r.popularity.length
  elapsed : r.elapsed = elapsed
  queries : r.queries = queries

/-- What the second result leads to. -/
inductive Popularity (candidates : List Candidate) (elapsed : Binary64) (queries : List String) (second : Result) :
    Except Error Report → Prop
  | failed {failure : Failure} (hsecond : second.outcome = .error failure) :
    Popularity candidates elapsed queries second (.error (.endpoint (faultOf second failure)))
  | noCounts {table : Table} (hsecond : second.outcome = .ok table) (hnone : table.bindings = []) :
    Popularity candidates elapsed queries second (.error (.degenerate .noCounts))
  | reported {table : Table} {report : Report} (hsecond : second.outcome = .ok table) (hne : table.bindings ≠ [])
    (hreport : report.IsOn candidates elapsed queries table) :
    Popularity candidates elapsed queries second (.ok report)

private theorem report_popularity {second : Result} (hcount : ∀ table, second.outcome = .ok table → Countable table)
    (candidates : List Candidate) (elapsed : Binary64) (queries : List String) :
    Popularity candidates elapsed queries second (report candidates elapsed queries second) := by
  cases hsecond : second.outcome with
  | error failure =>
    have hreport : report candidates elapsed queries second = .error (.endpoint (faultOf second failure)) := by
      simp only [report, table_error hsecond, Except.mapError, bind, Except.bind]
    rw [hreport]
    exact .failed hsecond
  | ok table =>
    obtain ⟨counts, hmap, hall, hrange⟩ := exists_mapM (hcount table hsecond).counts
    cases counts with
    | nil =>
      have hreport : report candidates elapsed queries second = .error (.degenerate .noCounts) := by
        simp only [report, table_ok hsecond, hmap, Except.mapError, bind, Except.bind]
        rfl
      rw [hreport]
      exact .noCounts hsecond (List.forall₂_nil_right_iff.1 hall)
    | cons first others =>
      have hreport : report candidates elapsed queries second =
          Report.ofCounts candidates elapsed queries first others := by
        simp only [report, table_ok hsecond, hmap, Except.mapError, bind, Except.bind]
      have hne : table.bindings ≠ [] := by
        intro hnil
        rw [hnil] at hall
        cases hall
      rw [hreport, ofCounts_inRange hrange]
      exact .reported hsecond hne ⟨rfl, hall, rfl, rfl, rfl, rfl, rfl⟩

/-- What the first result leads to, and with it how many queries are sent. -/
inductive Counting (s : Scope) (graph : Option String) (written : List String) (top : Int)
    (endpoint : List String → Result) (first : String) : List String × Except Error Report → Prop
  | failed {failure : Failure} (hfirst : (endpoint [first]).outcome = .error failure) :
    Counting s graph written top endpoint first ([first], .error (.endpoint (faultOf (endpoint [first]) failure)))
  | noCandidates {table : Table} (hfirst : (endpoint [first]).outcome = .ok table)
    (hnone : ∀ b ∈ table.bindings, ¬BindsFocus b) :
    Counting s graph written top endpoint first ([first], .error (.degenerate .noCandidates))
  | noneBindable {table : Table} {best : List Candidate} (hfirst : (endpoint [first]).outcome = .ok table)
    (hbest : rank (table.bindings.map .dict) top = .ok best) (hne : ∃ b ∈ table.bindings, BindsFocus b)
    (hnone : ∀ c ∈ best, ¬c.CanBeBound s.pathLength) :
    Counting s graph written top endpoint first ([first], .error (.degenerate .noneBindable))
  | askedAgain {table : Table} {best : List Candidate} {rows : List String} {second : String}
    {result : Except Error Report} (hfirst : (endpoint [first]).outcome = .ok table)
    (hbest : rank (table.bindings.map .dict) top = .ok best) (hbound : ∃ c ∈ best, c.CanBeBound s.pathLength)
    (hrows : List.Forall₂ (fun c row => c.valuesRow s.pathLength = .ok (some row))
      (best.filter (·.CanBeBound s.pathLength)) rows)
    (hsecond : second = popularityText s graph rows written)
    (hresult : Popularity best (endpoint [first]).elapsed [first, second] (endpoint [first, second]) result) :
    Counting s graph written top endpoint first ([first, second], result)

/-- How a measurement goes: the queries that are sent and what comes of them. -/
inductive Course (query : String) (graph : Option String) (top : Int) (endpoint : List String → Result) :
    List String × Except Error Report → Prop
  | unread {e : Query.Error} (hread : Query.parse query.toList = .error e) :
    Course query graph top endpoint ([], .error (.query query.toList e))
  | asked {s : Scope} {written : List String} {run : List String × Except Error Report} (hs : Asked query s written)
    (hrun : Counting s graph written top endpoint (countingText s graph written) run) :
    Course query graph top endpoint run

section

variable {query : String} {graph : Option String} {top : Int} {endpoint : List String → Result}

private theorem secondQuery_failed {r : Result} {failure : Failure} {pathLength : Int}
    (h : r.outcome = .error failure) : secondQuery query (graphValue graph) (.ok .popularity) top pathLength r =
      .error (.endpoint (faultOf r failure)) := by
  simp only [secondQuery, table_error h, Except.mapError, bind, Except.bind]

/-- What follows from a first result with a table, once the rows of its candidates are known. -/
theorem secondQuery_ranked {s : Scope} {written rows : List String} {r : Result} {table : Table} {best : List Candidate}
    (hs : Asked query s written) (h : r.outcome = .ok table) (hbest : rank (table.bindings.map .dict) top = .ok best)
    (hrows : valueRows s.pathLength best = .ok rows) :
    secondQuery query (graphValue graph) (.ok .popularity) top s.pathLength r =
      if best = [] then .error (.degenerate .noCandidates)
      else if rows = [] then .error (.degenerate .noneBindable)
      else .ok (best, popularityText s graph rows written) := by
  have hwritten : s.patterns.mapM Pattern.render = .ok written := hs.choose_spec.2.2
  have hprepared := hs.prepared (@Template.render_popularity s graph rows written hwritten)
  simp only [secondQuery, table_ok h, hbest, hrows, hprepared, Except.mapError, bind, Except.bind, pure, Except.pure,
    List.isEmpty_iff]
  by_cases hnone : best = []
  · simp only [hnone, ↓reduceIte]
    rfl
  · by_cases hnoRows : rows = []
    · simp only [hnone, hnoRows, ↓reduceIte]
      rfl
    · simp only [hnone, hnoRows, ↓reduceIte]

/-- A query that is read is counted. -/
theorem measure_counting {s : Scope} {written : List String} (hs : Asked query s written) (htop : 1 ≤ top)
    (hcount : ∀ sent table, (endpoint sent).outcome = .ok table → Countable table)
    (hrender : ∀ table best, (endpoint [countingText s graph written]).outcome = .ok table →
      rank (table.bindings.map .dict) top = .ok best → ∀ c ∈ best, ∃ row, c.valuesRow s.pathLength = .ok row) :
    Counting s graph written top endpoint (countingText s graph written)
      ((measure query (graphValue graph) (.ok .counting) (.ok .popularity) top).run endpoint []) := by
  have hwritten : s.patterns.mapM Pattern.render = .ok written := hs.choose_spec.2.2
  generalize hfirst : countingText s graph written = first at hrender
  have hprepared : prepared query (.ok .counting) [("graph", graphValue graph)] = .ok (first, s) :=
    hs.prepared (hfirst ▸ Template.render_counting hwritten)
  unfold measure
  simp only [hprepared, Inquiry.run, List.nil_append]
  cases houtcome : (endpoint [first]).outcome with
  | error failure =>
    rw [secondQuery_failed houtcome]
    exact .failed houtcome
  | ok table =>
    obtain ⟨best, hbest, hnil⟩ := (hcount [first] table houtcome).rank htop
    obtain ⟨rows, hvalueRows, hrows⟩ := exists_valueRows (hrender table best houtcome hbest)
    rw [secondQuery_ranked hs houtcome hbest hvalueRows]
    -- there are no rows exactly if no candidate can be bound again
    have hnoRows : rows = [] ↔ ∀ c ∈ best, ¬c.CanBeBound s.pathLength := by
      rw [← List.length_eq_zero_iff, ← hrows.length_eq, List.length_eq_zero_iff, List.filter_eq_nil_iff]
      simp
    by_cases hnone : best = []
    · rw [if_pos hnone]
      exact .noCandidates houtcome (hnil.1 hnone)
    · rw [if_neg hnone]
      by_cases hunbound : rows = []
      · rw [if_pos hunbound]
        exact .noneBindable houtcome hbest (by simpa using mt hnil.2 hnone) (hnoRows.1 hunbound)
      · rw [if_neg hunbound]
        exact .askedAgain houtcome hbest (by simpa using mt hnoRows.2 hunbound) hrows rfl
          (report_popularity (hcount _) _ _ _)

/-- A measurement with the templates at hand goes its course, whatever the endpoint says. -/
theorem measure_run (htop : 1 ≤ top) (hcount : ∀ sent table, (endpoint sent).outcome = .ok table → Countable table)
    (hrender : ∀ s written table best, Asked query s written →
      (endpoint [countingText s graph written]).outcome = .ok table → rank (table.bindings.map .dict) top = .ok best →
      ∀ c ∈ best, ∃ row, c.valuesRow s.pathLength = .ok row) :
    Course query graph top endpoint
      ((measure query (graphValue graph) (.ok .counting) (.ok .popularity) top).run endpoint []) := by
  cases hparse : Query.parse query.toList with
  | error e =>
    have hprepared : prepared query (.ok .counting) [("graph", graphValue graph)] = .error (.query query.toList e) := by
      simp only [prepared, hparse, Except.mapError, bind, Except.bind]
    have hrun : (measure query (graphValue graph) (.ok .counting) (.ok .popularity) top).run endpoint [] =
        ([], .error (.query query.toList e)) := by
      simp only [measure, hprepared, Inquiry.run]
    rw [hrun]
    exact .unread hparse
  | ok parsed =>
    obtain ⟨s, written, hs⟩ := exists_asked hparse
    exact .asked hs (measure_counting hs htop hcount fun table best => hrender s written table best hs)

end

/-- A table with one candidate that occurs three times. -/
def oneCandidate : Table where
  columns := ["POF", "count"]
  bindings := [[("POF", .dict [("type", .text "uri"), ("value", .text "http://ex/p")]),
    ("count", .dict [("type", .text "literal"), ("value", .text "3")])]]

/-- The endpoint that always answers with the one candidate. -/
def oneCandidateEndpoint (_ : List String) : Result where
  url := "http://ex/sparql"
  statusCode := some 200
  elapsed := Binary64.ofInt 7
  outcome := .ok oneCandidate

private theorem oneCandidate_countable : Countable oneCandidate := by
  constructor
  · intro binding hbinding entry hentry
    cases List.mem_singleton.1 hbinding
    simp only [List.mem_cons, List.not_mem_nil, or_false] at hentry
    rcases hentry with rfl | rfl <;> rfl
  · intro binding hbinding
    cases List.mem_singleton.1 hbinding
    refine ⟨3, by rfl, ?_⟩
    intro sign
    cases sign <;> decide

private theorem oneCandidate_row {best : List Candidate} (hbest : rank (oneCandidate.bindings.map .dict) 10 = .ok best)
    (pathLength : Int) : ∀ c ∈ best, ∃ row, c.valuesRow pathLength = .ok row := by
  have hparts : (rank (oneCandidate.bindings.map .dict) 10).toOption.map (·.map fun c => (c.value, c.type)) =
      some [("http://ex/p", "uri")] := by
    decide +kernel
  rw [hbest] at hparts
  intro c hc
  have hpart : (c.value, c.type) ∈ [("http://ex/p", "uri")] :=
    (Option.some.inj hparts) ▸ List.mem_map_of_mem hc
  obtain ⟨hvalue, htype⟩ := Prod.mk.inj (List.mem_singleton.1 hpart)
  unfold Candidate.valuesRow Candidate.render Candidate.isBindable
  by_cases hlength : pathLength = 0
  · exact ⟨some "<http://ex/p>", by simp only [hvalue, htype, hlength]; rfl⟩
  · exact ⟨none, by simp only [hvalue, htype, hlength]; rfl⟩

/-- Both queries are sent, the second with a row for the one candidate, which is reported with its count. -/
theorem measure_run_twice :
    let run := (measure "SELECT * \x7b ?s < ?o \x7d" (graphValue none) (.ok .counting) (.ok .popularity) 10).run
      oneCandidateEndpoint []
    Course "SELECT * \x7b ?s < ?o \x7d" none 10 oneCandidateEndpoint run ∧
      run.1 =
        ["SELECT ?POF (count(*) as ?count)\nWHERE \x7b\n  ?s ?POF ?o .\n\x7d\nGROUP BY ?POF\n",
          "SELECT ?POF (count(*) as ?count)\nWHERE \x7b\n" ++
            "  VALUES ?POF \x7b <http://ex/p> \x7d\n  ?s ?POF ?o .\n\x7d\nGROUP BY ?POF\n"] ∧
      run.2.toOption.map (·.popularity) = some [3] := by
  refine ⟨measure_run (by decide) ?_ ?_, by decide +kernel, by decide +kernel⟩
  · rintro sent _ ⟨⟩
    exact oneCandidate_countable
  · rintro s written _ best - ⟨⟩ hbest
    exact oneCandidate_row hbest s.pathLength

end PointOfFocus.Ranking
