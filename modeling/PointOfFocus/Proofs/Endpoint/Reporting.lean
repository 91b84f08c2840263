import PointOfFocus.Plan

/-!
# What becomes of a reply

A query is sent in one request, and nearly every reply is turned into a result: a table if the response brings a
result object, a failure otherwise. The two sections of a result object are the exception. Whatever stands inside them
is read with a default for what does not fit, but a section that is there and is no mapping is looked into as if it
were one, and then there is no result at all (`ask_reports`).
-/

namespace PointOfFocus.Endpoint

open PointOfFocus.Data

/-! ### Sections of a result object -/

/-- The names of the sections of a result object. -/
def sections : List String := ["head", "results"]

/-- A section is there and is no mapping. -/
def Misshapen (entries : List (String × Value)) : Prop :=
  ∃ name ∈ sections, ∃ v, valueOf? entries name = some v ∧ ∀ inner, v ≠ .dict inner

/-- A section can be looked into if it is missing or a mapping, and only then. -/
private theorem lookUp_section (section? : Option Value) (key : String) :
    (∃ found, (section?.getD (.dict [])).lookUp key = .ok found) ∧ (∀ v, section? = some v → ∃ inner, v = .dict inner) ∨
      (∃ type, (section?.getD (.dict [])).lookUp key = .error (.noEntries type)) ∧
        ∃ v, section? = some v ∧ ∀ inner, v ≠ .dict inner := by
  cases section? with
  | none => exact .inl ⟨⟨none, rfl⟩, by simp⟩
  | some v =>
    cases v with
    | dict inner => exact .inl ⟨⟨valueOf? inner key, rfl⟩, by simp⟩
    | _ => exact .inr ⟨⟨_, rfl⟩, _, rfl, by simp⟩

/-- Every bound value of the table comes with a description. -/
def Table.Described (t : Table) : Prop :=
  ∀ binding ∈ t.bindings, ∀ entry ∈ binding, (entry.2.get? "value").isSome

private theorem describe_described (bound : Value) : ((describe bound).get? "value").isSome := by
  unfold describe
  split
  next found hfound => rw [hfound]; rfl
  next => rfl

private theorem binding?_described {v : Value} {binding : Binding} (h : binding? v = some binding) :
    ∀ entry ∈ binding, (entry.2.get? "value").isSome := by
  cases v with
  | dict entries =>
    obtain rfl := Option.some.inj h
    intro entry hentry
    obtain ⟨source, -, rfl⟩ := List.mem_map.1 hentry
    exact describe_described source.2
  | _ => cases h

/-- A result object holds a table, unless one of its sections is no mapping. -/
private theorem ofEntries_cases (entries : List (String × Value)) :
    (∃ table, Table.ofEntries entries = .ok table ∧ table.Described) ∧ ¬Misshapen entries ∨
      (∃ type, Table.ofEntries entries = .error (.noEntries type)) ∧ Misshapen entries := by
  -- The head is looked into first, so the results do not matter if it is at fault.
  obtain ⟨⟨columns, hcolumns⟩, hhead⟩ | ⟨⟨type, herror⟩, v, hv⟩ := lookUp_section (valueOf? entries "head") "vars"
  · obtain ⟨⟨bindings, hbindings⟩, hresults⟩ | ⟨⟨type, herror⟩, v, hv⟩ :=
      lookUp_section (valueOf? entries "results") "bindings"
    · refine .inl ⟨⟨_, by simp only [Table.ofEntries, hcolumns, hbindings]; rfl, fun binding hbinding => ?_⟩, ?_⟩
      · obtain ⟨v, -, hv⟩ := List.mem_filterMap.1 hbinding
        exact binding?_described hv
      · rintro ⟨name, hname, v, hv, hne⟩
        obtain rfl | rfl : name = "head" ∨ name = "results" := by simpa [sections] using hname
        · obtain ⟨inner, rfl⟩ := hhead v hv
          exact hne inner rfl
        · obtain ⟨inner, rfl⟩ := hresults v hv
          exact hne inner rfl
    · exact .inr ⟨⟨type, by simp only [Table.ofEntries, hcolumns, herror]; rfl⟩, "results", by simp [sections], v, hv⟩
  · exact .inr ⟨⟨type, by simp only [Table.ofEntries, herror]; rfl⟩, "head", by simp [sections], v, hv⟩

/-! ### Responses -/

/-- The response brings a result object with the given entries. -/
def Response.Brings (r : Response) (entries : List (String × Value)) : Prop :=
  ∃ code body, r = .received code body ∧ isErrorStatus code = false ∧ Json.read body.toList = .ok (.dict entries)

/-- The response brings a result object of which a section is no mapping. -/
def Response.IsMisshapen (r : Response) : Prop := ∃ entries, r.Brings entries ∧ Misshapen entries

private theorem Response.Brings.unique {r : Response} {entries entries' : List (String × Value)} (h : r.Brings entries)
    (h' : r.Brings entries') : entries = entries' := by
  obtain ⟨code, body, rfl, -, hread⟩ := h
  obtain ⟨_, _, ⟨⟩, -, hread'⟩ := h'
  rw [hread] at hread'
  cases hread'
  rfl

/-- A reply that brings entries leads to the table of these. -/
theorem Response.Brings.outcome {r : Response} {entries : List (String × Value)} (h : r.Brings entries) :
    r.outcome = (Table.ofEntries entries).map .ok := by
  obtain ⟨code, body, rfl, hcode, hread⟩ := h
  simp only [Response.outcome, hcode, hread, Bool.false_eq_true, ↓reduceIte]

/-- A response that brings no result object counts as a failure. -/
theorem Response.outcome_of_not_brings {r : Response} (h : ∀ entries, ¬r.Brings entries) :
    ∃ failure, r.outcome = .ok (.error failure) := by
  cases r with
  | failed reason => exact ⟨_, rfl⟩
  | received code body =>
    cases hcode : isErrorStatus code with
    | true => exact ⟨.status code body, by simp only [Response.outcome, hcode, ↓reduceIte]⟩
    | false =>
      simp only [Response.outcome, hcode, Bool.false_eq_true, ↓reduceIte]
      split
      · exact ⟨_, rfl⟩
      next entries hread => exact absurd ⟨code, body, rfl, hcode, hread⟩ (h entries)
      · exact ⟨_, rfl⟩

/-! ### Results -/

/-- The result says what the reply from the address was. -/
structure Result.Reports (url : String) (reply : Reply) (r : Result) : Prop where
  url : r.url = url
  statusCode : r.statusCode = reply.response.statusCode
  elapsed : r.elapsed = reply.elapsed
  /-- It is no failure if and only if the response brings a result object. -/
  failure : r.failure? = none ↔ ∃ entries, reply.response.Brings entries
  /-- A failure has an empty table. -/
  empty : r.failure? ≠ none → r.contents.columns = [] ∧ r.contents.rows = []
  /-- Every row can be taken from the table. -/
  described : r.contents.Described

/-- A reply is reported in a result unless its response is misshapen; then there is no result. -/
theorem Reply.result_cases (url : String) (reply : Reply) :
    (∃ result, reply.result url = .ok result ∧ result.Reports url reply) ∧ ¬reply.response.IsMisshapen ∨
      (∃ type, reply.result url = .error (.noEntries type)) ∧ reply.response.IsMisshapen := by
  by_cases hbrings : ∃ entries, reply.response.Brings entries
  · obtain ⟨entries, hentries⟩ := hbrings
    obtain ⟨⟨table, htable, hdescribed⟩, hshape⟩ | ⟨⟨type, herror⟩, hshape⟩ := ofEntries_cases entries
    · refine .inl ⟨⟨_, by simp only [Reply.result, hentries.outcome, htable]; rfl, ?_⟩, ?_⟩
      · exact ⟨rfl, rfl, rfl, ⟨fun _ => ⟨entries, hentries⟩, fun _ => rfl⟩, fun hfailure => absurd rfl hfailure,
          hdescribed⟩
      · rintro ⟨entries', hentries', hmisshapen⟩
        exact hshape (hentries.unique hentries' ▸ hmisshapen)
    · exact .inr ⟨⟨type, by simp only [Reply.result, hentries.outcome, herror]; rfl⟩, entries, hentries, hshape⟩
  · obtain ⟨failure, hfailure⟩ := Response.outcome_of_not_brings fun entries hentries => hbrings ⟨entries, hentries⟩
    refine .inl ⟨⟨_, by simp only [Reply.result, hfailure]; rfl, ?_⟩, ?_⟩
    · exact ⟨rfl, rfl, rfl, ⟨nofun, fun h => absurd h hbrings⟩, fun _ => ⟨rfl, rfl⟩, nofun⟩
    · rintro ⟨entries, hentries, -⟩
      exact hbrings ⟨entries, hentries⟩

/-- Asking one query sends one request and ends with the result of its reply. -/
theorem run_ask (client : Client) (query : String) (world : Plan.World) :
    ((Inquiry.ask query .done).plan client).run world [] =
      ([client.request query], (world.reply [client.request query]).result client.url) := by
  simp only [Inquiry.plan, Plan.run, List.nil_append]
  cases (world.reply [client.request query]).result client.url with
  | error e => rfl
  | ok result => rfl

/-- A query is sent in one request, whatever comes back. The reply is reported in a result if and only if no section of
a result object that it brings is something else than a mapping; otherwise looking into that section stops with a
fault. -/
theorem ask_reports (client : Client) (query : String) (world : Plan.World) :
    let reply := world.reply [client.request query]
    let exchange := ((Inquiry.ask query .done).plan client).run world []
    exchange.1 = [client.request query] ∧
      ((∃ result, exchange.2 = .ok result ∧ result.Reports client.url reply) ↔ ¬reply.response.IsMisshapen) ∧
      ((∃ type, exchange.2 = .error (.noEntries type)) ↔ reply.response.IsMisshapen) := by
  intro reply exchange
  have hexchange : exchange = ([client.request query], reply.result client.url) := run_ask client query world
  rw [hexchange]
  refine ⟨rfl, ?_⟩
  obtain ⟨⟨result, hresult, hreports⟩, hshape⟩ | ⟨⟨type, herror⟩, hshape⟩ := reply.result_cases client.url
  · simp only [hresult, hshape, not_false_eq_true, iff_true, reduceCtorEq, exists_false, and_true]
    exact ⟨result, rfl, hreports⟩
  · simp only [herror, hshape, not_true_eq_false, iff_true, reduceCtorEq, false_and, exists_false, true_and]
    exact ⟨type, rfl⟩

example : (match (Response.received 200 "\x7b\"head\": null\x7d").outcome with
    | .error fault => some fault
    | .ok _ => none) = some (.noEntries "NoneType") := by decide +kernel

end PointOfFocus.Endpoint
