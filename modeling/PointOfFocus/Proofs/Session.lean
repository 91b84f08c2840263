import Mathlib.Data.List.Basic
import PointOfFocus.Session

/-!
# Sessions after a reset

A session goes through a history of operations, each of which may fail half-way: in the middle of a reading, with a
pattern under construction, or after the patterns were trimmed and before all of them were marked. A reset forgets all
of it. Whatever is done after a reset gives the results of a new session and leaves the state of one (`runAll_reset`).
Only the template and its further values are kept. They are those that were set last, because no other operation touches
them (`run_settings`).
-/

namespace PointOfFocus

/-- The template that an operation puts into use. A text that is no template is refused. -/
def Operation.template? : Operation → Option Template
  | .useTemplate text => (Template.compile text).toOption
  | _ => none

/-- The further values that an operation puts into use. -/
def Operation.context? : Operation → Option (List (String × Data.Value))
  | .useContext context => some context
  | _ => none

namespace Session

private theorem attempt_settings {ε : Type} (s : Session) (wrap : ε → Error) (result : Except ε Scope) :
    (s.attempt wrap (result.map s.withScope)).2.template = s.template ∧
      (s.attempt wrap (result.map s.withScope)).2.context = s.context := by
  cases result with
  | error e => exact ⟨rfl, rfl⟩
  | ok scope => exact ⟨rfl, rfl⟩

/-- No operation but the two for it changes the template or its further values. -/
theorem run_settings (s : Session) (operation : Operation) :
    (s.run operation).2.template = operation.template?.getD s.template ∧
      (s.run operation).2.context = operation.context?.getD s.context := by
  cases operation with
  | trim => exact s.attempt_settings _ _
  | addPattern => exact s.attempt_settings _ _
  | setPathLength length =>
    simp only [run, Operation.template?, Operation.context?]
    cases length.toInteger with
    | error e => exact ⟨rfl, rfl⟩
    | ok n => exact ⟨rfl, rfl⟩
  | useTemplate text =>
    simp only [run, Operation.template?, Operation.context?]
    cases Template.compile text with
    | error e => exact ⟨rfl, rfl⟩
    | ok template => exact ⟨rfl, rfl⟩
  | _ => exact ⟨rfl, rfl⟩

private theorem runAll_append (s : Session) (first second : List Operation) :
    s.runAll (first ++ second) =
      ((s.runAll first).1 ++ ((s.runAll first).2.runAll second).1, ((s.runAll first).2.runAll second).2) := by
  induction first generalizing s with
  | nil => rfl
  | cons operation first ih =>
    have hrest := ih (s.run operation).2
    simp only [List.cons_append, runAll, hrest]

/-- What only some operations set is, after a history, what was set last. -/
theorem runAll_latest {α : Type} {part : Session → α} {set? : Operation → Option α}
    (hstep : ∀ s operation, part (s.run operation).2 = (set? operation).getD (part s)) (s : Session)
    (history : List Operation) : part (s.runAll history).2 = (history.filterMap set?).getLastD (part s) := by
  induction history generalizing s with
  | nil => rfl
  | cons operation rest ih =>
    have hrest := ih (s.run operation).2
    rw [hstep] at hrest
    cases hset : set? operation with
    | none =>
      rw [hset] at hrest
      rw [List.filterMap_cons_none hset]
      exact hrest
    | some value =>
      rw [hset] at hrest
      rw [List.filterMap_cons_some hset, List.getLastD_cons]
      exact hrest

/-- A new session for a text with the template and the further values that are in use after a history. -/
def renewed (s : Session) (history : List Operation) (text : String) : Session where
  text := text
  template := (history.filterMap Operation.template?).getLastD s.template
  context := (history.filterMap Operation.context?).getLastD s.context

private theorem run_reset (s : Session) (history : List Operation) (text : String) :
    (s.runAll history).2.run (.reset (some text)) = (.ok none, s.renewed history text) := by
  have htemplate := runAll_latest (fun s operation => (run_settings s operation).1) s history
  have hcontext := runAll_latest (fun s operation => (run_settings s operation).2) s history
  simp only [run, renewed, ← htemplate, ← hcontext, Option.getD_some]

/-- After any history, a reset and what is done after it give the results of a new session and leave the state of
one. -/
theorem runAll_reset (s : Session) (history later : List Operation) (text : String) :
    s.runAll (history ++ .reset (some text) :: later) =
      ((s.runAll history).1 ++ .ok none :: ((s.renewed history text).runAll later).1,
        ((s.renewed history text).runAll later).2) := by
  rw [runAll_append]
  simp only [runAll, run_reset]

end Session

end PointOfFocus
