import PointOfFocus.Proofs.Endpoint.Reporting
import PointOfFocus.Proofs.Ranking.Rank

/-!
# Counts that are no numbers

The endpoint may give anything for a count. A count that is missing or that is no integer goes for zero: texts without
a number, lists, mappings, the absent value and the result that is no number. The infinities are the exception. Whether
a number is read from a value and whether it lies within a range are two faults, and only the first of them is caught,
so bindings are ranked if and only if none of those that bind the point of focus has an infinite count (`rank_counts`).
-/

namespace PointOfFocus.Ranking

open PointOfFocus.Data
open PointOfFocus.Endpoint

/-! ### The count of a binding -/

/-- The value that a binding gives for its count. -/
def countValue? (b : Binding) : Option Value := (valueOf? b "count").bind (·.get? "value")

/-- The integer that a binding gives for its count, or zero if it gives none. -/
def integerCount (b : Binding) : Int := ((countValue? b).bind (·.toInteger.toOption)).getD 0

/-- Whether the value is an infinity. -/
def isInfinite : Value → Bool
  | .float (.infinite _) => true
  | _ => false

/-- Whether the count of a binding is an infinity. -/
def hasInfiniteCount (b : Binding) : Bool := (countValue? b).any isInfinite

private theorem toInteger_of_isInfinite {v : Value} (h : isInfinite v = true) : v.toInteger = .error .infinity := by
  cases v with
  | float x =>
    cases x with
    | infinite negative => rfl
    | _ => cases h
  | _ => cases h

/-- Of the values that are no integers only the infinities lie outside of a range. -/
private theorem isOverflow_of_toInteger {v : Value} (hfinite : isInfinite v = false) {e : Value.NumberError}
    (h : v.toInteger = .error e) : e.isOverflow = false := by
  cases v with
  | float x =>
    cases x with
    | finite negative mantissa exponent => cases h
    | infinite negative => cases hfinite
    | notANumber => cases h; rfl
  | text s =>
    simp only [Value.toInteger] at h
    cases hread : Number.readInteger s with
    | ok n => rw [hread] at h; cases h
    | error cause => rw [hread] at h; cases h; rfl
  | bytes bs =>
    simp only [Value.toInteger] at h
    split at h
    · cases h
    · cases h; rfl
  | bool | int => cases h
  | null | list | dict | mapping | date | moment | tuple | set => cases h; rfl

/-- A binding is counted unless its count is an infinity. -/
theorem countOf_eq (b : Binding) :
    countOf (.dict b) = if hasInfiniteCount b then .error .infinity else .ok (integerCount b) := by
  have hvalue : ((Value.dict b).get? "count").bind (·.get? "value") = countValue? b := rfl
  rw [countOf, hvalue, hasInfiniteCount, integerCount]
  cases countValue? b with
  | none => rfl
  | some v =>
    rw [Option.any_some, Option.bind_some]
    cases hinfinite : isInfinite v with
    | true =>
      simp only [toInteger_of_isInfinite hinfinite]
      rfl
    | false =>
      cases hinteger : v.toInteger with
      | ok n =>
        simp only [hinteger]
        rfl
      | error e =>
        simp only [hinteger, isOverflow_of_toInteger hinfinite hinteger]
        rfl

private theorem occurrences_eq {b : Binding} (h : hasInfiniteCount b = false) : occurrences b = integerCount b := by
  rw [occurrences, countOf_eq, if_neg (by simp [h])]
  rfl

/-! ### Counting described bindings -/

/-- The values that a binding gives are described. -/
def Described (b : Binding) : Prop := ∀ entry ∈ b, (entry.2.get? "value").isSome

section

variable {b : Binding} {bindings : List Binding} (candidates : List Candidate)

private theorem tally_of_unbound (hdescribed : Described b) (h : text? b = none) :
    tally candidates (.dict b) = .ok candidates := by
  have hfocus : valueOf? b "POF" = none := by simpa [text?, focus?] using h
  simp only [tally, focusOf_described hdescribed, hfocus, Except.mapError, bind, Except.bind]
  rfl

/-- Only the count of a binding that binds the point of focus matters. -/
private theorem tally_of_bound (hdescribed : Described b) (h : (text? b).isSome) :
    if hasInfiniteCount b then tally candidates (.dict b) = .error (.count .infinity)
    else ∃ counted, tally candidates (.dict b) = .ok counted := by
  obtain ⟨description, hfocus⟩ : ∃ description, valueOf? b "POF" = some description := by
    rw [← Option.isSome_iff_exists]
    simpa [text?, focus?] using h
  simp only [tally, focusOf_described hdescribed, hfocus, countOf_eq, Except.mapError, bind, Except.bind]
  split
  next => rfl
  next => exact ⟨_, rfl⟩

/-- The bindings that do not bind the point of focus are passed over. -/
private theorem foldlM_bound (h : ∀ b ∈ bindings, Described b) :
    (bindings.map Value.dict).foldlM tally candidates = ((bound bindings).map Value.dict).foldlM tally candidates := by
  induction bindings generalizing candidates with
  | nil => rfl
  | cons b bindings ih =>
    obtain ⟨hb, hbindings⟩ := List.forall_mem_cons.1 h
    rw [List.map_cons, List.foldlM_cons, bound]
    cases htext : text? b with
    | none =>
      rw [List.filter_cons_of_neg (by simp [htext]), tally_of_unbound candidates hb htext]
      exact ih candidates hbindings
    | some text =>
      rw [List.filter_cons_of_pos (by simp [htext]), List.map_cons, List.foldlM_cons]
      refine bind_congr fun counted => ?_
      exact ih counted hbindings

/-- Counting stops at the first infinite count. -/
private theorem foldlM_infinite (h : ∀ b ∈ bindings, Described b) (hbound : ∀ b ∈ bindings, (text? b).isSome)
    (hinfinite : bindings.any hasInfiniteCount = true) :
    (bindings.map Value.dict).foldlM tally candidates = .error (.count .infinity) := by
  induction bindings generalizing candidates with
  | nil => cases hinfinite
  | cons b bindings ih =>
    obtain ⟨hb, hbindings⟩ := List.forall_mem_cons.1 h
    obtain ⟨htext, htexts⟩ := List.forall_mem_cons.1 hbound
    have htally := tally_of_bound candidates hb htext
    rw [List.map_cons, List.foldlM_cons]
    by_cases hcount : hasInfiniteCount b = true
    · rw [if_pos hcount] at htally
      rw [htally]
      rfl
    · rw [if_neg hcount] at htally
      obtain ⟨counted, hcounted⟩ := htally
      rw [hcounted]
      rw [List.any_cons, Bool.or_eq_true] at hinfinite
      exact ih counted hbindings htexts (hinfinite.resolve_left hcount)

end

/-! ### Ranking described bindings -/

private theorem mem_bound {bindings : List Binding} {b : Binding} :
    b ∈ bound bindings ↔ b ∈ bindings ∧ (text? b).isSome :=
  List.mem_filter

/-- Described bindings are ranked if no count among them that matters is infinite. -/
private theorem rank_of_described {bindings : List Binding} (h : ∀ b ∈ bindings, Described b) (top : Int) :
    rank (bindings.map .dict) top =
      if (bound bindings).any hasInfiniteCount then .error (.count .infinity)
      else .ok (firstItems top (byCount (seen bindings))) := by
  have hdescribed : ∀ b ∈ bound bindings, Described b := fun b hb => h b (mem_bound.1 hb).1
  have hrank : rank (bindings.map .dict) top = rank ((bound bindings).map .dict) top := by
    rw [rank, rank, foldlM_bound [] h]
  rw [hrank]
  split
  next hinfinite =>
    have hstop := foldlM_infinite [] hdescribed (fun b hb => (mem_bound.1 hb).2) hinfinite
    rw [rank, hstop]
    rfl
  next hfinite =>
    have hrankable : Rankable (bound bindings) := by
      refine ⟨hdescribed, fun b hb => ⟨integerCount b, ?_⟩⟩
      have hcount : ¬hasInfiniteCount b = true := fun hcount => hfinite (List.any_eq_true.2 ⟨b, hb, hcount⟩)
      rw [countOf_eq, if_neg hcount]
    rw [hrankable.rank_eq, seen_bound]

/-- Every candidate is counted for the bindings with its text, of which those without an integer count for nothing. -/
private theorem count_of_finite {bindings : List Binding} (h : (bound bindings).any hasInfiniteCount = false)
    {c : Candidate} (hc : c ∈ seen bindings) : c.count = ((withText bindings c.value).map integerCount).sum := by
  obtain ⟨text, -, rfl⟩ := List.mem_map.1 hc
  rw [candidateOf_value]
  show total (withText bindings text) = _
  rw [total]
  congr 1
  refine List.map_congr_left fun b hb => occurrences_eq ?_
  obtain ⟨hmem, htext⟩ := List.mem_filter.1 hb
  have hbound : b ∈ bound bindings := mem_bound.2 ⟨hmem, by rw [of_decide_eq_true htext, Option.isSome_some]⟩
  exact Bool.eq_false_iff.2 fun hcount => Bool.eq_false_iff.1 h (List.any_eq_true.2 ⟨b, hbound, hcount⟩)

/-- The bindings that an endpoint replies with are ranked unless one of those that bind the point of focus has an
infinite count, and then ranking stops with a fault. In a ranking every count that is missing or no integer is zero. -/
theorem rank_counts {url : String} {reply : Reply} {result : Result} (h : reply.result url = .ok result) (top : Int) :
    let bindings := result.contents.bindings
    ((∃ best, rank (bindings.map .dict) top = .ok best) ↔ ∀ b ∈ bound bindings, hasInfiniteCount b = false) ∧
      (∀ e, rank (bindings.map .dict) top = .error e → e = .count .infinity) ∧
      ∀ best, rank (bindings.map .dict) top = .ok best → best = firstItems top (byCount (seen bindings)) ∧
        ∀ c ∈ best, c.count = ((withText bindings c.value).map integerCount).sum := by
  intro bindings
  have hdescribed : ∀ b ∈ bindings, Described b := by
    obtain ⟨⟨reported, hreported, hreports⟩, -⟩ | ⟨⟨type, herror⟩, -⟩ := reply.result_cases url
    · cases h.symm.trans hreported
      exact hreports.described
    · cases h.symm.trans herror
  have hrank := rank_of_described hdescribed top
  -- One infinite count stops the ranking, wherever it stands.
  cases hinfinite : (bound bindings).any hasInfiniteCount with
  | true =>
    rw [hinfinite, if_pos rfl] at hrank
    rw [hrank]
    obtain ⟨b, hb, hcount⟩ := List.any_eq_true.1 hinfinite
    refine ⟨⟨nofun, fun hfinite => ?_⟩, fun e he => (Except.error.inj he).symm, nofun⟩
    rw [hfinite b hb] at hcount
    cases hcount
  | false =>
    rw [hinfinite, if_neg (by decide)] at hrank
    rw [hrank]
    refine ⟨⟨fun _ b hb => ?_, fun _ => ⟨_, rfl⟩⟩, nofun, ?_⟩
    · exact Bool.eq_false_iff.2 fun hcount => Bool.eq_false_iff.1 hinfinite (List.any_eq_true.2 ⟨b, hb, hcount⟩)
    · rintro best ⟨⟩
      refine ⟨rfl, fun c hc => ?_⟩
      have hordered : c ∈ byCount (seen bindings) := List.mem_of_mem_take hc
      exact count_of_finite hinfinite ((byCount_perm _).mem_iff.1 hordered)

/-- A reply with the given bindings. -/
def replyWith (bindings : String) : Reply where
  response := .received 200 ("\x7b\"results\": \x7b\"bindings\": [" ++ bindings ++ "]\x7d\x7d")
  elapsed := .ofInt 7

/-- Among the counts are some that are no integers, and one that is infinite but counts no candidate. -/
def oddCounts : Reply := replyWith (
  "\x7b\"POF\": \"a\", \"count\": NaN\x7d, \x7b\"POF\": \"a\", \"count\": 3\x7d, \x7b\"POF\": \"a\"\x7d, " ++
  "\x7b\"POF\": \"b\", \"count\": [7]\x7d, \x7b\"count\": Infinity\x7d")

/-- A candidate is counted with a number beyond the floating-point range. -/
def hugeCount : Reply := replyWith "\x7b\"POF\": \"a\", \"count\": 1e999\x7d"

/-- The candidates with the odd counts are ranked, the one with the huge count is not. -/
theorem rank_counts_infinite :
    (∃ result, oddCounts.result "http://ex/sparql" = .ok result ∧
      ∃ best, rank (result.contents.bindings.map .dict) 10 = .ok best) ∧
    ∃ result, hugeCount.result "http://ex/sparql" = .ok result ∧
      rank (result.contents.bindings.map .dict) 10 = .error (.count .infinity) := by
  constructor
  · have hread : (oddCounts.result "http://ex/sparql").toOption.map (fun r =>
        (bound r.contents.bindings).any hasInfiniteCount) = some false := by decide +kernel
    cases hresult : oddCounts.result "http://ex/sparql" with
    | error e => rw [hresult] at hread; cases hread
    | ok result =>
      rw [hresult] at hread
      have hfinite : ∀ b ∈ bound result.contents.bindings, ¬hasInfiniteCount b = true :=
        List.any_eq_false.1 (Option.some.inj hread)
      exact ⟨result, rfl, (rank_counts hresult 10).1.2 fun b hb => Bool.eq_false_iff.2 (hfinite b hb)⟩
  · have hread : (hugeCount.result "http://ex/sparql").toOption.map (fun r =>
        (bound r.contents.bindings).any hasInfiniteCount) = some true := by decide +kernel
    cases hresult : hugeCount.result "http://ex/sparql" with
    | error e => rw [hresult] at hread; cases hread
    | ok result =>
      rw [hresult] at hread
      obtain ⟨b, hb, hcount⟩ := List.any_eq_true.1 (Option.some.inj hread)
      obtain ⟨hranked, hfault, -⟩ := rank_counts hresult 10
      refine ⟨result, rfl, ?_⟩
      cases hrank : rank (result.contents.bindings.map .dict) 10 with
      | ok best =>
        have hfinite := hranked.1 ⟨best, hrank⟩ b hb
        rw [hfinite] at hcount
        cases hcount
      | error e => rw [hfault e hrank]

end PointOfFocus.Ranking
