import Mathlib.Data.List.Forall2
import PointOfFocus.Proofs.Number.Range
import PointOfFocus.Settings.Basic

/-!
# Sections of the settings

A section of the settings is read, or it is refused with a message. Beyond that there are few things that reading it
can stop at, and all of them lie in one of its values (`sections_outcome`): an integer that has too many digits to be
written where a text is wanted, an integer that is too large for a floating-point number where seconds are wanted, an
infinity where a number of candidates is wanted, and a template in a home directory that is not found.
-/

namespace PointOfFocus.Settings

open PointOfFocus.Data
open PointOfFocus.Number (Binary64)
open PointOfFocus.Text (upper)

/-! ### How a section is read -/

/-- A section is read as it should be, or it is refused because there is no such reading, unless one of the given faults
comes first. -/
inductive Outcome {α : Type} (Q : α → Prop) (E : Fault → Prop) : Except Fault α → Prop where
  | read {a : α} : Q a → (∀ fault, ¬E fault) → Outcome Q E (.ok a)
  | refused {cause : Invalid} : (∀ a, ¬Q a) → (∀ fault, ¬E fault) → Outcome Q E (.error (.invalid cause))
  | stopped {fault : Fault} : E fault → Outcome Q E (.error fault)

/-- What a section has under a name, if it is a mapping. -/
def fieldOf (v : Value) (key : String) : Option Value := v.entries?.bind (valueOf? · key)

private theorem fieldOf_of_entries {v : Value} {entries : List (String × Value)} (h : v.entries? = some entries)
    (key : String) : fieldOf v key = valueOf? entries key := by rw [fieldOf, h, Option.bind_some]

private theorem fieldOf_of_no_entries {v : Value} (h : v.entries? = none) (key : String) : fieldOf v key = none := by
  rw [fieldOf, h, Option.bind_none]

/-- The text of an entry that may be missing or empty. -/
def shownText (found? : Option Value) : Option String := (found?.filter (·.isTrue)).map (·.toText)

/-! ### Texts of values -/

private theorem layout_ne_nil (digits : List Char) (power : Int) : Number.layout digits power ≠ [] := by
  unfold Number.layout
  dsimp only
  split_ifs <;> simp

private theorem float_text_ne_empty (x : Binary64) : x.text ≠ "" := by
  cases x with
  | finite negative mantissa exponent =>
    have hlayout := layout_ne_nil (Nat.toDigits 10 (Number.shortestDigits mantissa exponent).1)
      (Number.shortestDigits mantissa exponent).2
    rw [Binary64.text, Ne, String.ofList_eq_empty_iff]
    dsimp only
    split_ifs <;> simp [hlayout]
  | infinite negative => cases negative <;> decide
  | notANumber => decide

private theorem date_text_ne_empty (d : Calendar.Date) :
    d.text ≠ "" := by simp [Calendar.Date.text, String.append_eq_empty_iff]

/-- What counts as true has a text that is not empty. -/
private theorem toText_ne_empty {v : Value} (h : v.isTrue = true) : v.toText ≠ "" := by
  cases v with
  | null => simp [Value.isTrue] at h
  | bool b => cases b <;> simp [Value.toText, Value.inner]
  | int i => exact Number.integerText_ne_empty i
  | float x => exact float_text_ne_empty x
  | text s => simpa [Value.isTrue, Value.toText] using h
  | date d => exact date_text_ne_empty d
  | moment m => simp [Value.toText, Calendar.Moment.textWith, date_text_ne_empty]
  | bytes bs => simp [Value.toText, Value.inner, quotedBytes]
  | tuple items => match items with
    | [] => simp [Value.toText, Value.inner]
    | [v] => simp [Value.toText, Value.inner]
    | v :: w :: items => simp [Value.toText, Value.inner]
  | set items => cases items <;> simp [Value.toText, Value.inner]
  | _ => simp [Value.toText, Value.inner]

/-- What cannot be written is not empty. -/
private theorem isTrue_of_not_isWritable {v : Value} (h : v.isWritable = false) : v.isTrue = true := by
  cases v with
  | int i =>
    refine decide_eq_true fun hzero => ?_
    subst hzero
    exact absurd h (by decide)
  | list items | tuple items | set items | dict items | mapping items =>
    cases items with
    | nil => simp [Value.isWritable, Value.areWritable, Value.entriesAreWritable, Value.pairsAreWritable] at h
    | cons item items => rfl
  | _ => simp [Value.isWritable] at h

private theorem shownText_ne_empty (found? : Option Value) : shownText found? ≠ some "" := by
  intro h
  obtain ⟨v, hv, htext⟩ := Option.map_eq_some_iff.1 h
  exact toText_ne_empty (Option.filter_eq_some_iff.1 hv).2 htext

/-! ### Steps -/

section

variable {α : Type} {Q Q' : α → Prop} {E E' : Fault → Prop}

private theorem Outcome.congr {x : Except Fault α} (h : Outcome Q E x) (hQ : ∀ a, Q a ↔ Q' a)
    (hE : ∀ fault, E fault ↔ E' fault) : Outcome Q' E' x := by
  obtain rfl : Q = Q' := funext fun a => propext (hQ a)
  obtain rfl : E = E' := funext fun fault => propext (hE fault)
  exact h

/-- A text is asked for, and what is done with it. -/
private theorem Outcome.text {v : Value} {f : String → Except Fault α}
    (hstop : v.isWritable = false → E (.outOfRange .unwritable))
    (hf : v.isWritable = true → Outcome Q E (f v.toText)) : Outcome Q E (writtenText v >>= f) := by
  rw [writtenText, Value.write]
  cases h : v.isWritable with
  | false => exact .stopped (hstop h)
  | true => exact hf h

/-- The text of an entry that may be missing or empty is asked for, and what is done with it. -/
private theorem Outcome.shown {found? : Option Value} {f : Option String → Except Fault α}
    (hstop : ∀ v, found? = some v → v.isWritable = false → E (.outOfRange .unwritable))
    (hf : (∀ v, found? = some v → v.isWritable = true) → Outcome Q E (f (shownText found?))) :
    Outcome Q E (trueText (found?.getD .null) >>= f) := by
  cases found? with
  | none => exact hf nofun
  | some v =>
    rw [Option.getD_some, trueText, writtenText, Value.write]
    cases hwritable : v.isWritable with
    | false =>
      rw [if_pos (isTrue_of_not_isWritable hwritable)]
      exact .stopped (hstop v rfl hwritable)
    | true =>
      have hshown := hf fun _ h => Option.some.inj h ▸ hwritable
      cases htrue : v.isTrue with
      | false => rwa [show shownText (some v) = none by simp [shownText, Option.filter, htrue]] at hshown
      | true => rwa [show shownText (some v) = some v.toText by simp [shownText, Option.filter, htrue]] at hshown

/-- A number is asked for, and what is done with it. -/
private theorem Outcome.number {β : Type} {x : Except Value.NumberError β} {invalid : Value.NumberError → Invalid}
    {f : β → Except Fault α}
    (hstop : ∀ cause, x = .error cause → cause.isOverflow = true → E (.outOfRange cause))
    (hrefused : ∀ cause, x = .error cause → cause.isOverflow = false → (∀ a, ¬Q a) ∧ ∀ fault, ¬E fault)
    (hf : ∀ b, x = .ok b → Outcome Q E (f b)) : Outcome Q E (x.mapError (.ofNumber invalid) >>= f) := by
  cases x with
  | ok b => exact hf b rfl
  | error cause =>
    show Outcome Q E (.error (Fault.ofNumber invalid cause))
    rw [Fault.ofNumber]
    cases hoverflow : cause.isOverflow with
    | true => exact .stopped (hstop cause rfl hoverflow)
    | false =>
      obtain ⟨hno, hnone⟩ := hrefused cause rfl hoverflow
      exact .refused hno hnone

end

/-! ### Endpoints -/

/-- The endpoint that an item of the list describes. -/
structure EndpointOf (item : Value) (e : EndpointEntry) : Prop where
  id : ∃ v, fieldOf item "id" = some v ∧ e.id = v.toText
  label : e.label = (shownText (fieldOf item "label")).getD e.id
  url : ∃ v, fieldOf item "sparql_url" = some v ∧ e.url = v.toText
  graph : e.graph = shownText (fieldOf item "graph")
  url_ne_empty : e.url ≠ ""
  graph_ne_empty : e.graph ≠ some ""

/-- The entries of an item whose texts are asked for, one after the other, until something is found wrong. -/
inductive Needs (item : Value) : String → Prop where
  | id : Needs item "id"
  | label {id : Value} : fieldOf item "id" = some id → Needs item "label"
  | url {id : Value} : fieldOf item "id" = some id → Needs item "sparql_url"
  | graph {id url : Value} : fieldOf item "id" = some id → fieldOf item "sparql_url" = some url → url.toText ≠ "" →
      Needs item "graph"

/-- A text that is asked for cannot be written. -/
def EndpointStops (item : Value) : Prop :=
  ∃ key v, Needs item key ∧ fieldOf item key = some v ∧ v.isWritable = false

/-- An item cannot be written, and the items before it are endpoints. -/
inductive EndpointsStop : List Value → Prop where
  | here {item : Value} {items : List Value} : EndpointStops item → EndpointsStop (item :: items)
  | later {item : Value} {items : List Value} {e : EndpointEntry} : EndpointOf item e → EndpointsStop items →
      EndpointsStop (item :: items)

private theorem not_endpointStops {item : Value} (hid : ∀ v, fieldOf item "id" = some v → v.isWritable = true)
    (hlabel : ∀ v, fieldOf item "label" = some v → v.isWritable = true)
    (hurl : ∀ v, fieldOf item "sparql_url" = some v → v.isWritable = true)
    (hgraph : ∀ url v, fieldOf item "sparql_url" = some url → url.toText ≠ "" → fieldOf item "graph" = some v →
      v.isWritable = true) :
    ¬EndpointStops item := by
  rintro ⟨key, v, hneeds, hv, hwritable⟩
  have hall : v.isWritable = true := by
    cases hneeds with
    | id => exact hid v hv
    | label => exact hlabel v hv
    | url => exact hurl v hv
    | graph _ hurl hne => exact hgraph _ v hurl hne hv
  rw [hall] at hwritable
  cases hwritable

private theorem not_endpointStops_of_no_id {item : Value} (h : fieldOf item "id" = none) : ¬EndpointStops item := by
  rintro ⟨key, v, hneeds, hv, -⟩
  cases hneeds <;> simp_all

private theorem EndpointOf.exists_id {item : Value} {e : EndpointEntry} (h : EndpointOf item e) :
    fieldOf item "id" ≠ none := by
  obtain ⟨v, hv, -⟩ := h.id
  simp [hv]

private theorem EndpointOf.exists_url {item : Value} {e : EndpointEntry} (h : EndpointOf item e) :
    ∃ v, fieldOf item "sparql_url" = some v ∧ v.toText ≠ "" := by
  obtain ⟨v, hv, hurl⟩ := h.url
  exact ⟨v, hv, hurl ▸ h.url_ne_empty⟩

private theorem endpointEntry_outcome (index : Nat) (item : Value) :
    Outcome (EndpointOf item) (fun fault => fault = .outOfRange .unwritable ∧ EndpointStops item)
      (endpointEntry index item) := by
  cases hentries : item.entries? with
  | none =>
    have hid := fieldOf_of_no_entries hentries "id"
    rw [endpointEntry, hentries]
    exact .refused (fun e he => he.exists_id hid) fun _ h => not_endpointStops_of_no_id hid h.2
  | some entries =>
    simp only [endpointEntry, hentries, ← fieldOf_of_entries hentries]
    cases hid : fieldOf item "id" with
    | none => exact .refused (fun e he => he.exists_id hid) fun _ h => not_endpointStops_of_no_id hid h.2
    | some id =>
      -- The fields are read in this order, so a fault in one of them hides those behind it.
      refine .text (fun hwritable => ⟨rfl, "id", id, .id, hid, hwritable⟩) fun hidWritable => ?_
      refine .shown (fun v hv hwritable => ⟨rfl, "label", v, .label hid, hv, hwritable⟩) fun hlabel => ?_
      cases hurl : fieldOf item "sparql_url" with
      | none =>
        refine .refused (fun e he => ?_) fun _ h => not_endpointStops (by simp [hid, hidWritable]) hlabel
          (by simp [hurl]) (by simp [hurl]) h.2
        obtain ⟨v, hv, -⟩ := he.exists_url
        simp [hurl] at hv
      | some url =>
        refine .text (fun hwritable => ⟨rfl, "sparql_url", url, .url hid, hurl, hwritable⟩) fun hurlWritable => ?_
        by_cases hempty : url.toText = ""
        · rw [if_pos hempty]
          have hnone : ∀ url', fieldOf item "sparql_url" = some url' → url'.toText = "" := fun url' h => by
            rw [← Option.some.inj (hurl.symm.trans h), hempty]
          refine .refused (fun e he => ?_) fun _ h => not_endpointStops (by simp [hid, hidWritable]) hlabel
            (by simp [hurl, hurlWritable]) (fun url' _ hurl' hne => absurd (hnone url' hurl') hne) h.2
          obtain ⟨url', hurl', hne⟩ := he.exists_url
          exact hne (hnone url' hurl')
        · rw [if_neg hempty]
          refine .shown (fun v hv hwritable => ⟨rfl, "graph", v, .graph hid hurl hempty, hv, hwritable⟩)
            fun hgraph => ?_
          refine .read ⟨⟨id, hid, rfl⟩, rfl, ⟨url, hurl, rfl⟩, rfl, hempty, shownText_ne_empty _⟩ fun _ h => ?_
          exact not_endpointStops (by simp [hid, hidWritable]) hlabel (by simp [hurl, hurlWritable])
            (fun _ v _ _ hv => hgraph v hv) h.2

private theorem endpointEntries_outcome (index : Nat) (items : List Value) :
    Outcome (List.Forall₂ EndpointOf items) (fun fault => fault = .outOfRange .unwritable ∧ EndpointsStop items)
      (endpointEntries index items) := by
  induction items generalizing index with
  | nil => exact .read .nil (by rintro _ ⟨-, ⟨⟩⟩)
  | cons item items ih =>
    have hfirst := endpointEntry_outcome index item
    have hrest := ih (index + 1)
    rw [endpointEntries]
    generalize endpointEntry index item = first at hfirst
    generalize endpointEntries (index + 1) items = rest at hrest
    -- An entry that stops or is refused decides for all, whatever comes behind it.
    cases hfirst with
    | stopped hstop =>
      obtain ⟨rfl, hstops⟩ := hstop
      exact .stopped ⟨rfl, .here hstops⟩
    | refused hno hnone =>
      refine .refused (fun es hes => ?_) fun _ ⟨_, hstops⟩ => ?_
      · cases hes with
        | cons he _ => exact hno _ he
      · cases hstops with
        | here hstops => exact hnone _ ⟨rfl, hstops⟩
        | later he _ => exact hno _ he
    | read he hnone =>
      cases hrest with
      | stopped hstop =>
        obtain ⟨rfl, hstops⟩ := hstop
        exact .stopped ⟨rfl, .later he hstops⟩
      | refused hnoRest hnoneRest =>
        refine .refused (fun es hes => ?_) fun _ ⟨_, hstops⟩ => ?_
        · cases hes with
          | cons _ hrest => exact hnoRest _ hrest
        · cases hstops with
          | here hstops => exact hnone _ ⟨rfl, hstops⟩
          | later _ hstops => exact hnoneRest _ ⟨rfl, hstops⟩
      | read hes hnoneRest =>
        refine .read (.cons he hes) fun _ ⟨_, hstops⟩ => ?_
        cases hstops with
        | here hstops => exact hnone _ ⟨rfl, hstops⟩
        | later _ hstops => exact hnoneRest _ ⟨rfl, hstops⟩

/-- The endpoints of a section, one for each item of its list; an absent section has none. -/
def EndpointsOf (v : Value) (es : List EndpointEntry) : Prop :=
  v = .null ∧ es = [] ∨ ∃ items, v = .list items ∧ List.Forall₂ EndpointOf items es

private theorem endpointsSection_outcome (v : Value) :
    Outcome (EndpointsOf v)
      (fun fault => fault = .outOfRange .unwritable ∧ ∃ items, v = .list items ∧ EndpointsStop items)
      (endpointsSection v) := by
  cases v with
  | null => exact .read (.inl ⟨rfl, rfl⟩) (by simp)
  | list items =>
    refine (endpointEntries_outcome 0 items).congr (fun es => ?_) fun fault => ?_
    · simp [EndpointsOf]
    · simp
  | _ => exact .refused (by rintro es (⟨⟨⟩, -⟩ | ⟨_, ⟨⟩, -⟩)) (by rintro _ ⟨-, _, ⟨⟩, -⟩)

/-! ### The client -/

/-- The value for the method. -/
def methodOf (v : Value) : Value := (fieldOf v "method").getD (.text "POST")

/-- The settings that a section on the client gives. -/
structure ClientOf (v : Value) (s : ClientSettings) : Prop where
  method : s.method = upper (methodOf v).toText
  method_mem : s.method = "GET" ∨ s.method = "POST"
  timeout : ((fieldOf v "timeout_s").getD (.float (.ofInt 30))).toFloat = .ok s.timeout

/-- The method cannot be written, or it is one of the two and the seconds are too many for a floating-point number. -/
inductive ClientStops (v : Value) : Fault → Prop where
  | method : (methodOf v).isWritable = false → ClientStops v (.outOfRange .unwritable)
  | timeout {seconds : Int} : (methodOf v).isWritable = true → upper (methodOf v).toText ∈ ["GET", "POST"] →
      fieldOf v "timeout_s" = some (.int seconds) → Binary64.overflowBound ≤ seconds.natAbs →
      ClientStops v (.outOfRange .outOfRange)

private theorem toFloat_of_overflow {i : Int} (h : Binary64.overflowBound ≤ i.natAbs) :
    (Value.int i).toFloat = .error .outOfRange := by
  have hinfinite : Binary64.ofInt i = .infinite (decide (i < 0)) :=
    (Binary64.ofRatio_infinite_iff one_ne_zero).2 (by omega)
  rw [Value.toFloat, hinfinite]

/-- Only an integer can be too large for a floating-point number. -/
private theorem overflow_of_toFloat {v : Value} {cause : Value.NumberError} (h : v.toFloat = .error cause)
    (hoverflow : cause.isOverflow = true) :
    cause = .outOfRange ∧ ∃ i, v = .int i ∧ Binary64.overflowBound ≤ i.natAbs := by
  cases v with
  | int i =>
    rw [Value.toFloat] at h
    split at h
    next sign hinfinite =>
      cases h
      have hsign : sign = decide (i < 0) := Binary64.sign_of_ofRatio hinfinite
      subst hsign
      have hbound := (Binary64.ofRatio_infinite_iff one_ne_zero).1 hinfinite
      exact ⟨rfl, i, rfl, by omega⟩
    next => cases h
  | text s =>
    rw [Value.toFloat] at h
    split at h <;> cases h
    cases hoverflow
  | bytes bs =>
    rw [Value.toFloat] at h
    split at h <;> cases h
    cases hoverflow
  | _ => cases h <;> cases hoverflow

private theorem not_clientStops {v : Value} (hwritable : (methodOf v).isWritable = true)
    (htimeout : upper (methodOf v).toText ∈ ["GET", "POST"] → ∀ seconds, fieldOf v "timeout_s" = some seconds →
      ∀ cause, seconds.toFloat = .error cause → cause.isOverflow = false) (fault : Fault) : ¬ClientStops v fault := by
  intro hstops
  cases hstops with
  | method hnot =>
    rw [hwritable] at hnot
    cases hnot
  | timeout _ hmethod hseconds hbound => cases htimeout hmethod _ hseconds _ (toFloat_of_overflow hbound)

private theorem clientSection_outcome (v : Value) : Outcome (ClientOf v) (ClientStops v) (clientSection v) := by
  cases hentries : v.entries? with
  | none =>
    have hfield := fieldOf_of_no_entries hentries
    have hmethod : methodOf v = .text "POST" := by rw [methodOf, hfield, Option.getD_none]
    rw [clientSection, hentries]
    exact .read ⟨by rw [hmethod]; decide, .inr rfl, by rw [hfield]; rfl⟩
      (not_clientStops (by rw [hmethod]; rfl) (by simp [hfield]))
  | some entries =>
    simp only [clientSection, hentries, ← fieldOf_of_entries hentries]
    rw [← methodOf]
    refine .text .method fun hwritable => ?_
    by_cases hmethod : upper (methodOf v).toText = "GET" ∨ upper (methodOf v).toText = "POST"
    · rw [if_neg (by simpa [← not_or] using hmethod)]
      cases htimeout : fieldOf v "timeout_s" with
      | none =>
        exact .read ⟨rfl, hmethod, by rw [htimeout]; rfl⟩ (not_clientStops hwritable (by simp [htimeout]))
      | some seconds =>
        -- there is only one value in the field
        have hfield : ∀ seconds', fieldOf v "timeout_s" = some seconds' → seconds' = seconds := fun _ h =>
          Option.some.inj (h.symm.trans htimeout)
        refine .number (fun cause hcause hoverflow => ?_) (fun cause hcause hoverflow => ⟨fun s hs => ?_, ?_⟩)
          fun timeout hread => ?_
        · obtain ⟨rfl, i, rfl, hbound⟩ := overflow_of_toFloat hcause hoverflow
          exact .timeout hwritable (by simpa using hmethod) htimeout hbound
        · have hread := hs.timeout
          rw [htimeout, Option.getD_some, hcause] at hread
          cases hread
        · refine not_clientStops hwritable fun _ seconds' hseconds cause' hcause' => ?_
          rw [hfield _ hseconds, hcause] at hcause'
          cases hcause'
          exact hoverflow
        · refine .read ⟨rfl, hmethod, by rw [htimeout]; exact hread⟩
            (not_clientStops hwritable fun _ seconds' hseconds cause' hcause' => ?_)
          rw [hfield _ hseconds, hread] at hcause'
          cases hcause'
    · rw [if_pos (by simpa [← not_or] using hmethod)]
      refine .refused (fun s hs => hmethod (hs.method ▸ hs.method_mem)) (not_clientStops hwritable fun h => ?_)
      exact absurd (by simpa using h) hmethod

/-! ### Recommendations -/

/-- The home directory that the location starts in is not found: the name behind the tilde is none that a user can have,
or the database has no directory for it, or one whose text starts with a tilde itself. -/
inductive Location.HomeFails (homes : Homes) (l : Location) : HomeFault → Prop where
  | nullCharacter {user : String} : l.user? = some user → '\x00' ∈ user.toList → HomeFails homes l .nullCharacter
  | unknown {user : String} : l.user? = some user → '\x00' ∉ user.toList →
      (∀ text, homes user = some text → text.toList.head? = some '~') → HomeFails homes l .unknown

private theorem Location.ofHome?_eq_none_iff (text : String) : ofHome? text = none ↔ text.toList.head? = some '~' := by
  unfold ofHome?
  split
  · simp [*]
  · split <;> simp [*]

/-- A location is found, or it starts in a home directory that is not found. -/
theorem Location.expandHome_cases (homes : Homes) (l : Location) :
    (∃ expanded, l.expandHome homes = .ok expanded ∧ ∀ cause, ¬l.HomeFails homes cause) ∨
      ∃ cause, l.expandHome homes = .error cause ∧ l.HomeFails homes cause := by
  cases huser : l.user? with
  | none =>
    refine .inl ⟨l, by rw [expandHome, huser], fun cause hfails => ?_⟩
    cases hfails <;> simp_all
  | some user =>
    by_cases hnull : '\x00' ∈ user.toList
    · exact .inr ⟨.nullCharacter, by rw [expandHome, huser]; exact if_pos hnull, .nullCharacter huser hnull⟩
    · cases hhome : (homes user).bind ofHome? with
      | some home =>
        have hexpand : l.expandHome homes = .ok { home with names := home.names ++ l.names.tail } := by
          simp only [expandHome, huser, if_neg hnull, hhome]
        refine .inl ⟨_, hexpand, fun cause hfails => ?_⟩
        obtain ⟨text, htext, hread⟩ := Option.bind_eq_some_iff.1 hhome
        cases hfails with
        | nullCharacter huser' hnull' => exact hnull (Option.some.inj (huser'.symm.trans huser) ▸ hnull')
        | unknown huser' _ hnone =>
          obtain rfl := Option.some.inj (huser'.symm.trans huser)
          rw [(ofHome?_eq_none_iff text).2 (hnone text htext)] at hread
          cases hread
      | none =>
        have hexpand : l.expandHome homes = .error .unknown := by
          simp only [expandHome, huser, if_neg hnull, hhome]
        refine .inr ⟨.unknown, hexpand, .unknown huser hnull fun text htext => ?_⟩
        rwa [htext, Option.bind_some, ofHome?_eq_none_iff] at hhome

/-- The location of the template that an entry names, if it names one. -/
def TemplateOf (homes : Homes) (base : Location) (found? : Option Value) (template : Option Location) : Prop :=
  shownText found? = none ∧ template = none ∨
    ∃ path l, shownText found? = some path ∧ (Location.read path).expandHome homes = .ok l ∧
      template = some (base.join l)

private theorem TemplateOf.not_homeFails {homes : Homes} {base : Location} {found? : Option Value}
    {template : Option Location}
    (h : TemplateOf homes base found? template) {path : String} (hpath : shownText found? = some path)
    (cause : HomeFault) : ¬(Location.read path).HomeFails homes cause := by
  obtain ⟨hnone, -⟩ | ⟨path', l, hshown, hexpand, -⟩ := h
  · rw [hnone] at hpath
    cases hpath
  · cases hpath.symm.trans hshown
    obtain ⟨_, -, hfound⟩ | ⟨_, hfault, -⟩ := (Location.read path).expandHome_cases homes
    · exact hfound cause
    · cases hexpand.symm.trans hfault

/-- The location of a template is asked for, and what is done with it. -/
private theorem Outcome.template {α : Type} {Q : α → Prop} {E : Fault → Prop} {homes : Homes} {base : Location}
    {found? : Option Value} {f : Option Location → Except Fault α}
    (hstop : ∀ v, found? = some v → v.isWritable = false → E (.outOfRange .unwritable))
    (hhome : (∀ v, found? = some v → v.isWritable = true) → ∀ path, shownText found? = some path →
      ∀ cause, (Location.read path).HomeFails homes cause → E (.home cause))
    (hf : (∀ v, found? = some v → v.isWritable = true) → ∀ template, TemplateOf homes base found? template →
      Outcome Q E (f template)) : Outcome Q E (templateLocation homes base (found?.getD .null) >>= f) := by
  rw [templateLocation, bind_assoc]
  refine .shown hstop fun hwritable => ?_
  cases hshown : shownText found? with
  | none => exact hf hwritable none (.inl ⟨hshown, rfl⟩)
  | some path =>
    obtain ⟨l, hexpand, -⟩ | ⟨cause, hexpand, hfails⟩ := (Location.read path).expandHome_cases homes
    · simp only [hexpand]
      exact hf hwritable _ (.inr ⟨path, l, hshown, hexpand, rfl⟩)
    · simp only [hexpand]
      exact .stopped (hhome hwritable path hshown cause hfails)

/-- The settings that a section on recommendations gives. -/
structure RecommendationOf (homes : Homes) (base : Location) (v : Value) (s : RecommendationSettings) : Prop where
  template : TemplateOf homes base (fieldOf v "template_path") s.template
  top : ((fieldOf v "top_k").getD (.int 10)).toInteger = .ok s.top
  top_pos : 1 ≤ s.top

/-- The template cannot be written, or it is in a home directory that is not found, or else the number of candidates is
an infinity. -/
inductive RecommendationStops (homes : Homes) (v : Value) : Fault → Prop where
  | template {path : Value} : fieldOf v "template_path" = some path → path.isWritable = false →
      RecommendationStops homes v (.outOfRange .unwritable)
  | home {path : String} {cause : HomeFault} :
      (∀ path, fieldOf v "template_path" = some path → path.isWritable = true) →
      shownText (fieldOf v "template_path") = some path → (Location.read path).HomeFails homes cause →
      RecommendationStops homes v (.home cause)
  | top {negative : Bool} : (∀ path, fieldOf v "template_path" = some path → path.isWritable = true) →
      (∀ path, shownText (fieldOf v "template_path") = some path →
        ∀ cause, ¬(Location.read path).HomeFails homes cause) →
      fieldOf v "top_k" = some (.float (.infinite negative)) → RecommendationStops homes v (.outOfRange .infinity)

/-- Only an infinity is too large for an integer. -/
private theorem overflow_of_toInteger {v : Value} {cause : Value.NumberError} (h : v.toInteger = .error cause)
    (hoverflow : cause.isOverflow = true) : cause = .infinity ∧ ∃ negative, v = .float (.infinite negative) := by
  cases v with
  | float x =>
    cases x with
    | infinite negative =>
      cases h
      exact ⟨rfl, negative, rfl⟩
    | _ => cases h <;> cases hoverflow
  | text s =>
    rw [Value.toInteger] at h
    cases hread : Number.readInteger s with
    | ok i => rw [hread] at h; cases h
    | error e => rw [hread] at h; cases h; cases hoverflow
  | bytes bs =>
    rw [Value.toInteger] at h
    split at h <;> cases h
    cases hoverflow
  | _ => cases h <;> cases hoverflow

private theorem not_recommendationStops {homes : Homes} {base : Location} {v : Value} {template : Option Location}
    (hwritable : ∀ path, fieldOf v "template_path" = some path → path.isWritable = true)
    (htemplate : TemplateOf homes base (fieldOf v "template_path") template)
    (htop : ∀ top, fieldOf v "top_k" = some top → ∀ cause, top.toInteger = .error cause → cause.isOverflow = false)
    (fault : Fault) : ¬RecommendationStops homes v fault := by
  intro hstops
  cases hstops with
  | template hpath hnot =>
    rw [hwritable _ hpath] at hnot
    cases hnot
  | home _ hpath hfails => exact htemplate.not_homeFails hpath _ hfails
  | top _ _ hinfinite => cases htop _ hinfinite .infinity rfl

private theorem recommendationSection_outcome (homes : Homes) (base : Location) (v : Value) :
    Outcome (RecommendationOf homes base v) (RecommendationStops homes v) (recommendationSection homes base v) := by
  cases hentries : v.entries? with
  | none =>
    have hfield := fieldOf_of_no_entries hentries
    rw [recommendationSection, hentries]
    have htemplate : TemplateOf homes base (fieldOf v "template_path") none := .inl ⟨by rw [hfield]; rfl, rfl⟩
    exact .read ⟨htemplate, by rw [hfield]; rfl, by decide⟩
      (not_recommendationStops (by simp [hfield]) htemplate (by simp [hfield]))
  | some entries =>
    simp only [recommendationSection, hentries, ← fieldOf_of_entries hentries]
    refine .template (fun _ => .template) (fun hwritable _ hpath _ => .home hwritable hpath)
      fun hwritable template htemplate => ?_
    refine .number (fun cause hcause hoverflow => ?_) (fun cause hcause hoverflow => ⟨fun s hs => ?_, ?_⟩)
      fun top hread => ?_
    · obtain ⟨rfl, negative, hinfinite⟩ := overflow_of_toInteger hcause hoverflow
      -- the default is a finite number, so the infinite one was given
      have htop : fieldOf v "top_k" = some (.float (.infinite negative)) := by
        cases hfield : fieldOf v "top_k" with
        | none => rw [hfield] at hinfinite; cases hinfinite
        | some top => rw [hfield, Option.getD_some] at hinfinite; rw [hinfinite]
      exact .top hwritable (fun _ => htemplate.not_homeFails) htop
    · rw [hs.top] at hcause
      cases hcause
    · refine not_recommendationStops hwritable htemplate fun top htop cause' hcause' => ?_
      rw [htop, Option.getD_some, hcause'] at hcause
      cases hcause
      exact hoverflow
    · have hnone := not_recommendationStops hwritable htemplate fun top' htop cause' hcause' => by
        rw [htop, Option.getD_some, hcause'] at hread
        cases hread
      by_cases hpos : top < 1
      · rw [if_pos hpos]
        refine .refused (fun s hs => ?_) hnone
        have htop : s.top = top := Except.ok.inj (hs.top.symm.trans hread)
        exact absurd (htop ▸ hs.top_pos) (Int.not_le.2 hpos)
      · rw [if_neg hpos]
        exact .read ⟨htemplate, hread, Int.not_lt.1 hpos⟩ hnone

/-! ### All sections -/

/-- A value that stands for a section is read as such a section should be or refused with a message, unless a number in
it is too large or the template is in a home directory that is not found. -/
theorem sections_outcome (homes : Homes) (base : Location) (v : Value) :
    Outcome (EndpointsOf v)
        (fun fault => fault = .outOfRange .unwritable ∧ ∃ items, v = .list items ∧ EndpointsStop items)
        (endpointsSection v) ∧
      Outcome (ClientOf v) (ClientStops v) (clientSection v) ∧
      Outcome (RecommendationOf homes base v) (RecommendationStops homes v) (recommendationSection homes base v) :=
  ⟨endpointsSection_outcome v, clientSection_outcome v, recommendationSection_outcome homes base v⟩

example : (match clientSection (.dict [("timeout_s", .int (10 ^ 400))]) with
    | .error (.outOfRange cause) => cause.message
    | _ => "") = "int too large to convert to float" := by decide +kernel

end PointOfFocus.Settings
