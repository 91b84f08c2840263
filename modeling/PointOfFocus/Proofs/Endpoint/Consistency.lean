import Mathlib.Data.List.Forall2
import PointOfFocus.Proofs.Endpoint.Reporting

/-!
# The parts of a result

A result has a failure or a table, and the table is shown twice, as the bindings with their descriptions and as rows
with the bare values. The parts agree (`ask_result_consistent`): a failure comes with an empty table, a table comes with
the status code of the response, the bindings stand for the objects of the list that was received, one for each of them,
and each row holds what its binding describes.
-/

namespace PointOfFocus.Endpoint

open PointOfFocus.Data

/-! ### Bindings -/

/-- What was received for a variable and the object that describes it: the same, if it is an object with a value of its
own, and else an object around it. -/
inductive Describes : Value → Value → Prop where
  | same {entries : List (String × Value)} {v : Value} : valueOf? entries "value" = some v →
      Describes (.dict entries) (.dict entries)
  | around {received : Value} : (∀ entries v, received = .dict entries → valueOf? entries "value" ≠ some v) →
      Describes received (.dict [("type", .text "literal"), ("value", received)])

/-- The binding gives the variables of the object in order, each with a description of what was received for it. -/
def Binding.StandsFor (binding : Binding) (entries : List (String × Value)) : Prop :=
  List.Forall₂ (fun received bound => bound.1 = received.1 ∧ Describes received.2 bound.2) entries binding

/-- There is one binding for each object among the items, in order, and none for what is no object. -/
inductive Bound : List Value → List Binding → Prop where
  | nil : Bound [] []
  | object {entries : List (String × Value)} {binding : Binding} {items : List Value} {bindings : List Binding} :
      binding.StandsFor entries → Bound items bindings → Bound (.dict entries :: items) (binding :: bindings)
  | other {item : Value} {items : List Value} {bindings : List Binding} : (∀ entries, item ≠ .dict entries) →
      Bound items bindings → Bound (item :: items) bindings

private theorem describes_describe (received : Value) : Describes received (describe received) := by
  unfold describe
  split
  next v hv =>
    cases received with
    | dict entries => exact .same hv
    | _ => cases hv
  next hnone =>
    refine .around fun entries v hreceived hv => ?_
    rw [hreceived, Value.get?, hv] at hnone
    cases hnone

/-- Every description is an object with a value. -/
private theorem Describes.exists_value {received bound : Value} (h : Describes received bound) :
    ∃ entries v, bound = .dict entries ∧ valueOf? entries "value" = some v := by
  cases h with
  | same hv => exact ⟨_, _, rfl, hv⟩
  | around => exact ⟨_, received, rfl, rfl⟩

private theorem standsFor_describe (entries : List (String × Value)) :
    Binding.StandsFor (entries.map fun entry => (entry.1, describe entry.2)) entries := by
  induction entries with
  | nil => exact .nil
  | cons entry entries ih => exact .cons ⟨rfl, describes_describe entry.2⟩ ih

private theorem Binding.StandsFor.exists_value {binding : Binding} {entries : List (String × Value)}
    (h : binding.StandsFor entries) :
    ∀ entry ∈ binding, ∃ inner v, entry.2 = .dict inner ∧ valueOf? inner "value" = some v := by
  induction h with
  | nil => simp
  | cons hfirst _ ih => exact List.forall_mem_cons.2 ⟨hfirst.2.exists_value, ih⟩

private theorem bound_filterMap (items : List Value) : Bound items (items.filterMap binding?) := by
  induction items with
  | nil => exact .nil
  | cons item items ih =>
    cases item with
    | dict entries => exact .object (standsFor_describe entries) ih
    | _ => exact .other nofun ih

private theorem Bound.exists_value {items : List Value} {bindings : List Binding} (h : Bound items bindings) :
    ∀ binding ∈ bindings, ∀ entry ∈ binding,
      ∃ entries v, entry.2 = .dict entries ∧ valueOf? entries "value" = some v := by
  induction h with
  | nil => simp
  | object hstands _ ih => exact List.forall_mem_cons.2 ⟨hstands.exists_value, ih⟩
  | other _ _ ih => exact ih

/-! ### Rows -/

/-- The row has the variables of the binding, each with the value in its description. -/
structure ShowsBinding (row : List (String × Value)) (binding : Binding) : Prop where
  names : row.map Prod.fst = binding.map Prod.fst
  values : ∀ name, valueOf? row name = (valueOf? binding name).bind (·.get? "value")

private theorem showsBinding_described {binding : Binding} (h : ∀ entry ∈ binding, (entry.2.get? "value").isSome) :
    ShowsBinding (binding.map fun entry => (entry.1, described entry.2)) binding := by
  refine ⟨by simp, fun name => ?_⟩
  induction binding with
  | nil => rfl
  | cons entry binding ih =>
    obtain ⟨hentry, hrest⟩ := List.forall_mem_cons.1 h
    obtain ⟨v, hv⟩ := Option.isSome_iff_exists.1 hentry
    by_cases hname : entry.1 = name
    · simp [valueOf?, hname, described, hv]
    · simpa [valueOf?, hname] using ih hrest

private theorem Table.Described.rows {t : Table} (h : t.Described) : List.Forall₂ ShowsBinding t.rows t.bindings := by
  unfold Table.rows
  rw [List.forall₂_map_left_iff, List.forall₂_same]
  exact fun binding hbinding => showsBinding_described (h binding hbinding)

/-! ### Results -/

/-- The items of the list of bindings in a result object; if there is no such list, there are none. -/
def receivedItems (entries : List (String × Value)) : List Value :=
  itemsOf ((valueOf? entries "results").bind (·.get? "bindings"))

/-- What is looked up in a section is what it holds, and nothing in a section that is missing. -/
private theorem eq_of_lookUp_section {section? found : Option Value} {key : String}
    (h : (section?.getD (.dict [])).lookUp key = .ok found) : found = section?.bind (·.get? key) := by
  cases section? with
  | none => cases h; rfl
  | some v =>
    cases v with
    | dict entries => cases h; rfl
    | _ => cases h

/-- The bindings of a result object stand for the objects in its list. -/
private theorem ofEntries_bound {entries : List (String × Value)} {table : Table}
    (h : Table.ofEntries entries = .ok table) : Bound (receivedItems entries) table.bindings := by
  cases hcolumns : ((valueOf? entries "head").getD (.dict [])).lookUp "vars" with
  | error e => simp only [Table.ofEntries, hcolumns] at h; cases h
  | ok columns =>
    cases hbindings : ((valueOf? entries "results").getD (.dict [])).lookUp "bindings" with
    | error e => simp only [Table.ofEntries, hcolumns, hbindings] at h; cases h
    | ok bindings =>
      simp only [Table.ofEntries, hcolumns, hbindings] at h
      cases h
      rw [receivedItems, ← eq_of_lookUp_section hbindings]
      exact bound_filterMap _

/-- The parts of a result agree with each other and with the response. -/
structure Result.Consistent (r : Result) (response : Response) : Prop where
  /-- A failure has an empty table. -/
  failed : ∀ failure, r.failure? = some failure →
    r.contents.columns = [] ∧ r.contents.bindings = [] ∧ r.contents.rows = []
  /-- A table comes with a status code, and its bindings stand for the objects that were received. -/
  succeeded : r.failure? = none → ∃ code entries, r.statusCode = some code ∧ response.Brings entries ∧
    Bound (receivedItems entries) r.contents.bindings
  /-- There are as many rows as bindings. -/
  length : r.contents.rows.length = r.contents.bindings.length
  /-- Every bound value is an object with a value. -/
  described : ∀ binding ∈ r.contents.bindings, ∀ entry ∈ binding,
    ∃ entries v, entry.2 = .dict entries ∧ valueOf? entries "value" = some v
  /-- Each row shows its binding. -/
  rows : List.Forall₂ ShowsBinding r.contents.rows r.contents.bindings

/-- A reply that is reported in a result gives one with parts that agree. -/
theorem Reply.result_consistent {url : String} {reply : Reply} {r : Result} (h : reply.result url = .ok r) :
    r.Consistent reply.response := by
  by_cases hbrings : ∃ entries, reply.response.Brings entries
  · obtain ⟨entries, hentries⟩ := hbrings
    cases htable : Table.ofEntries entries with
    | error e =>
      simp only [Reply.result, hentries.outcome, htable] at h
      cases h
    | ok table =>
      have hbound : Bound (receivedItems entries) table.bindings := ofEntries_bound htable
      have hrows : List.Forall₂ ShowsBinding table.rows table.bindings :=
        Table.Described.rows fun binding hbinding entry hentry => by
          obtain ⟨inner, v, hinner, hv⟩ := hbound.exists_value binding hbinding entry hentry
          rw [hinner, Value.get?, hv, Option.isSome_some]
      simp only [Reply.result, hentries.outcome, htable] at h
      cases h
      obtain ⟨code, body, hreceived, -⟩ := id hentries
      exact ⟨by simp [Result.failure?],
        fun _ => ⟨code, entries, congrArg Response.statusCode hreceived, hentries, hbound⟩, hrows.length_eq,
        hbound.exists_value, hrows⟩
  · obtain ⟨failure, hfailure⟩ := Response.outcome_of_not_brings fun entries hentries => hbrings ⟨entries, hentries⟩
    simp only [Reply.result, hfailure] at h
    cases h
    exact ⟨fun _ _ => ⟨rfl, rfl, rfl⟩, by simp [Result.failure?], rfl, fun _ hmem => (List.not_mem_nil hmem).elim, .nil⟩

/-- Whatever comes back for a query, the parts of its result agree. -/
theorem ask_result_consistent {client : Client} {query : String} {world : Plan.World} {result : Result}
    (h : (((Inquiry.ask query .done).plan client).run world []).2 = .ok result) :
    result.Consistent (world.reply [client.request query]).response := by
  rw [run_ask] at h
  exact Reply.result_consistent h

/-- A list with a described value, a number and a value without a description. -/
theorem ask_result_consistent_mixed :
    let bindings := "[\x7b\"a\": \x7b\"value\": 1\x7d\x7d, 1, \x7b\"a\": 2\x7d]"
    let response := Response.received 200 ("\x7b\"results\": \x7b\"bindings\": " ++ bindings ++ "\x7d\x7d")
    let world : Plan.World := { lookUp := fun _ => .missing, reply := fun _ => ⟨response, .finite false 0 0⟩ }
    ∃ result, (((Inquiry.ask "SELECT * \x7b\x7d" .done).plan { url := "http://e" }).run world []).2 = .ok result ∧
      result.contents.rows.length = 2 ∧ result.Consistent response := by
  intro bindings response world
  have hrows : (((Inquiry.ask "SELECT * \x7b\x7d" .done).plan { url := "http://e" }).run world []).2.toOption.map
      (·.contents.rows.length) = some 2 := by decide +kernel
  cases hresult : (((Inquiry.ask "SELECT * \x7b\x7d" .done).plan { url := "http://e" }).run world []).2 with
  | error e => rw [hresult] at hrows; cases hrows
  | ok result =>
    rw [hresult] at hrows
    exact ⟨result, rfl, Option.some.inj hrows, ask_result_consistent hresult⟩

end PointOfFocus.Endpoint
