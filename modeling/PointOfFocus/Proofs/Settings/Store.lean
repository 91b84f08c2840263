import Mathlib.Data.List.Basic
import PointOfFocus.Settings.Store

/-!
# What is kept through a history

Files are written and deleted, the environment names one settings file and then another, and in between the
configuration is asked for, with a path or without, forced or not. Each time it is asked for, either a reading is made of
what is found at that moment, or the reading that is kept is given out again (`Store.load_cases`). What is kept changes
only when a reading is made without a path (`Occasion.kept_next`). So it is at any time the latest of these readings, and
this is what an unforced request without a path gives (`serves_after`).
-/

namespace PointOfFocus.Settings

/-! ### Requests -/

namespace Store

/-- The reading that is made of what is found now. -/
def made (s : Store) (e : Environment) (lookUp : String → Entry) (path : Option String) : Except Fault Reading :=
  (readConfiguration e lookUp path).map (⟨s.next, ·⟩)

variable (s : Store) (e : Environment) (lookUp : String → Entry)

private theorem reload_cases (path : Option String) :
    (∃ fault, s.made e lookUp path = .error fault ∧ s.reload e lookUp path = (.error fault, s)) ∨
    ∃ reading, s.made e lookUp path = .ok reading ∧ reading.number = s.next ∧ s.reload e lookUp path =
      (.ok reading, { kept := if path.isNone then some reading else s.kept, next := s.next + 1 }) := by
  unfold made reload
  cases readConfiguration e lookUp path with
  | error fault => exact .inl ⟨fault, rfl, rfl⟩
  | ok configuration => exact .inr ⟨⟨s.next, configuration⟩, rfl, rfl, rfl⟩

private theorem reload_result (path : Option String) : (s.reload e lookUp path).1 = s.made e lookUp path := by
  rcases s.reload_cases e lookUp path with ⟨fault, hfault, hreload⟩ | ⟨reading, hreading, -, hreload⟩
  · rw [hreload, hfault]
  · rw [hreload, hreading]

/-- What is kept is given out if there is no path and no force, and a reading is made otherwise. -/
theorem load_cases (path : Option String) (force : Bool) :
    (path = none ∧ force = false ∧ ∃ reading, s.kept = some reading ∧
      s.load e lookUp path force = (.ok reading, s)) ∨
    (path.isSome = true ∨ force = true ∨ s.kept = none) ∧ s.load e lookUp path force = s.reload e lookUp path := by
  cases path with
  | some path => exact .inr ⟨.inl rfl, rfl⟩
  | none =>
    cases hkept : s.kept with
    | none => exact .inr ⟨.inr (.inr rfl), by simp only [load, hkept]⟩
    | some reading =>
      cases force with
      | true => exact .inr ⟨.inr (.inl rfl), by simp only [load, hkept]⟩
      | false => exact .inl ⟨rfl, rfl, reading, rfl, by simp only [load, hkept]⟩

end Store

/-! ### Occasions -/

/-- What is found at a path. -/
def Workplace.lookUp (w : Workplace) : String → Entry := w.folder.entryAt w.environment.directory

private theorem Workplace.step_load (w : Workplace) (path : Option String) (force : Bool) :
    w.step (.load path force) = ((w.store.load w.environment w.lookUp path force).1.map some,
      { w with store := (w.store.load w.environment w.lookUp path force).2 }) := rfl

/-- Something that happens at a place of work. -/
structure Occasion where
  /-- The place of work, as it is then. -/
  place : Workplace
  /-- What happens. -/
  event : Event

namespace Occasion

/-- The reading that is made on an occasion: the configuration is asked for, with a path or by force or while nothing is
kept, and what is found then is a configuration. -/
def made? (o : Occasion) : Option Reading :=
  match o.event with
  | .load path force =>
    if path.isSome || force || o.place.store.kept.isNone then
      (o.place.store.made o.place.environment o.place.lookUp path).toOption
    else none
  | _ => none

/-- The reading that is made on an occasion where there is no path, so that the environment says where to look. -/
def implicit? (o : Occasion) : Option Reading :=
  match o.event with
  | .load none _ => o.made?
  | _ => none

/-- What follows from the event. -/
def outcome (o : Occasion) : Except Fault (Option Reading) := (o.place.step o.event).1

/-- The place of work after the event. -/
def next (o : Occasion) : Workplace := (o.place.step o.event).2

/-- A reading is made on the occasion, or what is kept stays as it is. -/
private theorem step_cases (o : Occasion) :
    (∃ path force reading, o.event = .load path force ∧ o.made? = some reading ∧ reading.number = o.place.store.next ∧
      o.outcome = .ok (some reading) ∧ o.next.store =
        { kept := if path.isNone then some reading else o.place.store.kept, next := o.place.store.next + 1 }) ∨
    o.made? = none ∧ o.next.store = o.place.store := by
  obtain ⟨place, event⟩ := o
  cases event with
  | write path text =>
    refine .inr ⟨rfl, ?_⟩
    simp only [next, Workplace.step]
    split <;> rfl
  | delete path =>
    refine .inr ⟨rfl, ?_⟩
    simp only [next, Workplace.step]
    split <;> rfl
  | configure path => exact .inr ⟨rfl, rfl⟩
  | load path force =>
    simp only [made?, outcome, next, Workplace.step_load]
    -- A setting that is kept is handed out again unless a path or force asks for another reading.
    rcases place.store.load_cases place.environment place.lookUp path force with
      ⟨rfl, rfl, reading, hkept, hload⟩ | ⟨hguard, hload⟩
    · rw [hload]
      exact .inr ⟨by simp [hkept], rfl⟩
    · have hmade : (path.isSome || force || place.store.kept.isNone) = true := by
        simpa [or_assoc] using hguard
      rw [if_pos hmade, hload]
      rcases place.store.reload_cases place.environment place.lookUp path with
        ⟨fault, hfault, hreload⟩ | ⟨reading, hreading, hnumber, hreload⟩
      · rw [hreload, hfault]
        exact .inr ⟨rfl, rfl⟩
      · rw [hreload, hreading]
        exact .inl ⟨path, force, reading, rfl, rfl, hnumber, rfl, rfl⟩

/-- What is kept changes only when a reading is made without a path. -/
theorem kept_next (o : Occasion) : o.next.store.kept = o.implicit?.or o.place.store.kept := by
  rcases o.step_cases with ⟨path, force, reading, hevent, hmade, -, -, hstore⟩ | ⟨hmade, hstore⟩
  · rw [hstore, implicit?, hevent, hmade]
    cases path <;> rfl
  · have himplicit : o.implicit? = none := by
      unfold implicit?
      split
      · exact hmade
      · rfl
    rw [hstore, himplicit, Option.none_or]

/-- The numbers go up with every reading that is made. -/
private theorem number_next (o : Occasion) :
    o.next.store.next = o.place.store.next + if o.made?.isSome then 1 else 0 := by
  rcases o.step_cases with ⟨path, force, reading, -, hmade, -, -, hstore⟩ | ⟨hmade, hstore⟩
  · rw [hstore, hmade]
    rfl
  · rw [hstore, hmade]
    rfl

private theorem of_made? {o : Occasion} {reading : Reading} (h : o.made? = some reading) :
    reading.number = o.place.store.next ∧ o.outcome = .ok (some reading) := by
  rcases o.step_cases with ⟨path, force, made, -, hmade, hnumber, houtcome, -⟩ | ⟨hmade, -⟩
  · cases hmade.symm.trans h
    exact ⟨hnumber, houtcome⟩
  · cases hmade.symm.trans h

end Occasion

/-! ### Histories -/

namespace Workplace

/-- The place of work after a history. -/
def after (w : Workplace) : List Event → Workplace
  | [] => w
  | event :: rest => (w.step event).2.after rest

/-- The occasions of a history, one for each event. -/
def occasions (w : Workplace) : List Event → List Occasion
  | [] => []
  | event :: rest => ⟨w, event⟩ :: (w.step event).2.occasions rest

/-- The readings that are made in the course of a history. -/
def readings (w : Workplace) (history : List Event) : List Reading :=
  (w.occasions history).filterMap Occasion.made?

/-- The latest of the readings that are made without a path. -/
def latest? (w : Workplace) (history : List Event) : Option Reading :=
  ((w.occasions history).filterMap Occasion.implicit?).getLast?

/-- What is kept is the latest reading that was made without a path. -/
theorem kept_after (w : Workplace) (history : List Event) :
    (w.after history).store.kept = (w.latest? history).or w.store.kept := by
  induction history generalizing w with
  | nil => rfl
  | cons event rest ih =>
    have hstep : (w.step event).2.store.kept = (Occasion.mk w event).implicit?.or w.store.kept :=
      Occasion.kept_next ⟨w, event⟩
    rw [after, ih, hstep, latest?, latest?, occasions]
    cases himplicit : (Occasion.mk w event).implicit? with
    | none => rw [List.filterMap_cons_none himplicit, Option.none_or]
    | some reading =>
      rw [List.filterMap_cons_some himplicit, List.getLast?_cons]
      cases (((w.step event).2.occasions rest).filterMap Occasion.implicit?).getLast? <;> rfl

/-- Every reading has a number that no reading before it had. -/
theorem number_readings (w : Workplace) (history : List Event) :
    (∀ reading ∈ w.readings history, w.store.next ≤ reading.number) ∧
      (w.readings history).Pairwise (·.number < ·.number) := by
  induction history generalizing w with
  | nil => exact ⟨by simp [readings, occasions], .nil⟩
  | cons event rest ih =>
    obtain ⟨hle, hpairwise⟩ := ih (w.step event).2
    have hnext : (w.step event).2.store.next = _ := Occasion.number_next ⟨w, event⟩
    rw [hnext] at hle
    rw [readings, occasions]
    cases hmade : (Occasion.mk w event).made? with
    | none =>
      rw [hmade] at hle
      rw [List.filterMap_cons_none hmade]
      exact ⟨hle, hpairwise⟩
    | some reading =>
      rw [hmade] at hle
      rw [List.filterMap_cons_some hmade, List.forall_mem_cons, List.pairwise_cons]
      have hnumber : reading.number = w.store.next := (Occasion.of_made? hmade).1
      have hlater : ∀ later ∈ (w.step event).2.readings rest, w.store.next < later.number := hle
      refine ⟨⟨by omega, fun later hmem => ?_⟩, fun later hmem => ?_, hpairwise⟩
      · exact Nat.le_of_lt (hlater later hmem)
      · rw [hnumber]
        exact hlater later hmem

end Workplace

/-- What a place of work does when it is asked for the configuration, given the latest reading made without a path. -/
structure Serves (here : Workplace) (latest? : Option Reading) : Prop where
  /-- What is kept is this reading. -/
  kept : here.store.kept = latest?
  /-- A request with a path changes nothing of what is kept. -/
  pathKeeps : ∀ path force, (here.step (.load (some path) force)).2.store.kept = here.store.kept
  /-- A request with a path has the same result whatever is kept. -/
  pathIgnores : ∀ path force kept, ({ here with store := { here.store with kept } }.step (.load (some path) force)).1 =
    (here.step (.load (some path) force)).1
  /-- A request that fails changes nothing. -/
  failed : ∀ path force fault, (here.step (.load path force)).1 = .error fault →
    (here.step (.load path force)).2 = here
  /-- An unforced request without a path gives what is kept, whatever the files and the environment say. -/
  given : ∀ reading, here.store.kept = some reading → ∀ environment folder,
    { here with environment, folder }.step (.load none false) = (.ok (some reading), { here with environment, folder })
  /-- So it gives the latest reading that was made without a path. -/
  latest : ∀ reading, latest? = some reading → here.step (.load none false) = (.ok (some reading), here)
  /-- If there is none, a reading is made of what is found now. -/
  first : latest? = none → (here.step (.load none false)).1 =
    (here.store.made here.environment here.lookUp none).map some

private theorem serves_kept (here : Workplace) : Serves here here.store.kept := by
  have hgiven : ∀ reading, here.store.kept = some reading → ∀ environment folder,
      { here with environment, folder }.step (.load none false) =
        (.ok (some reading), { here with environment, folder }) := by
    intro reading hkept environment folder
    simp only [Workplace.step_load, Store.load, hkept]
    rfl
  refine ⟨rfl, fun path force => ?_, fun path force kept => ?_, fun path force fault hfault => ?_, hgiven,
    fun reading hkept => hgiven reading hkept _ _, fun hnone => ?_⟩
  · have hkept : (here.step (.load (some path) force)).2.store.kept = _ :=
      Occasion.kept_next ⟨here, .load (some path) force⟩
    exact hkept
  · simp only [Workplace.step_load, Store.load, Store.reload_result]
    rfl
  · rw [Workplace.step_load] at hfault ⊢
    rcases here.store.load_cases here.environment here.lookUp path force with ⟨-, -, _, -, hload⟩ | ⟨-, hload⟩
    · rw [hload]
    · rw [hload] at hfault ⊢
      rcases here.store.reload_cases here.environment here.lookUp path with ⟨_, -, hreload⟩ | ⟨_, -, -, hreload⟩
      · rw [hreload]
      · rw [hreload] at hfault
        cases hfault
  · simp only [Workplace.step_load, Store.load, hnone, Store.reload_result]

/-- Through every history, a new place of work gives out the latest reading that was made without a path. The readings
that are made are those that were given at the time, and each of them is a new one. -/
theorem serves_after (environment : Environment) (folder : Folder) (history : List Event) :
    let start : Workplace := { environment, folder }
    Serves (start.after history) (start.latest? history) ∧
      (∀ o ∈ start.occasions history, ∀ reading, o.made? = some reading → o.outcome = .ok (some reading)) ∧
      (start.readings history).Pairwise (·.number < ·.number) := by
  intro start
  have hkept : (start.after history).store.kept = start.latest? history := by
    rw [Workplace.kept_after, Option.or_none]
  refine ⟨hkept ▸ serves_kept _, fun o _ reading hmade => (Occasion.of_made? hmade).2, ?_⟩
  exact (start.number_readings history).2

end PointOfFocus.Settings
