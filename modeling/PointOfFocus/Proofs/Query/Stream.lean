import Mathlib.Data.List.Forall2
import PointOfFocus.Proofs.Query.Phrase.Node

/-!
# Walking through the tokens of a phrase

A step of the parser is a function of the state, so a production can be carried out by rewriting: each basic step has
an equation here. `Ahead` says that the tokens at hand are those of some pieces, and `Moves` sums up what a production
that succeeds does to the state: which tokens it leaves, how many points of focus it met, which patterns it added.
-/

namespace PointOfFocus.Query

open PointOfFocus.Rdf
open PointOfFocus.Text (upper)
open Phrase

/-! ### Basic steps -/

/-- A step after another runs where the other has left off, and not at all after a fault. -/
theorem bind_apply {α β : Type} (m : Parser α) (f : α → Parser β) (s : State) :
    (m >>= f) s = match m s with
      | (.ok a, after) => f a after
      | (.error e, after) => (.error e, after) := by
  show ExceptT.bind m f s = _
  simp only [ExceptT.bind, ExceptT.mk]
  show StateT.bind m _ s = _
  simp only [StateT.bind]
  rcases m s with ⟨_ | _, _⟩ <;> rfl

theorem pure_apply {α : Type} (a : α) (s : State) : (pure a : Parser α) s = (.ok a, s) := rfl

theorem get_apply (s : State) : (get : Parser State) s = (.ok s, s) := rfl

theorem modify_apply (f : State → State) (s : State) : (modify f : Parser Unit) s = (.ok (), f s) := rfl

theorem token_apply (s : State) : token s = (.ok s.token, s) := rfl

theorem advance_apply (s : State) : advance s = (.ok s.token, { s with ahead := s.ahead.tail }) := rfl

theorem fail_apply {α : Type} (cause : Cause) (s : State) :
    (fail cause : Parser α) s = (.error (.at s.token.start cause), s) := rfl

theorem collect_apply (change : Scope → Scope) (s : State) :
    collect change s = (.ok (), { s with scope := change s.scope }) := rfl

theorem atSymbol_apply (x : Symbol) (s : State) : atSymbol x s = (.ok (decide (s.token.kind = .symbol x)), s) := rfl

theorem atKeyword_apply (words : List String) (s : State) :
    atKeyword words s = (.ok (s.token.isKeyword words), s) := rfl

theorem isKeyword_of_kind {t : Token} (h : t.kind ≠ .word) (words : List String) : t.isKeyword words = false := by
  simp [Token.isKeyword, h]

/-- The variable that is made up is numbered by those made up before it. -/
theorem freshVariable_apply (s : State) :
    freshVariable s = (.ok (madeUp s.anonymous), { s with anonymous := s.anonymous + 1 }) := rfl

/-- A nested step starts with an empty pattern, and afterwards the old one is back, also after a fault. -/
theorem nested_apply {α : Type} (step : Parser α) (s : State) :
    nested step s = match step { s with scope := { s.scope with current := {} } } with
      | (result, after) =>
        (result, { after with scope := { after.scope with current := s.scope.current } }) := rfl

theorem expect_apply {kind : Kind} {what : String} {s : State} (h : s.token.kind = kind) :
    expect kind what s = advance s := by
  simp only [expect, bind_apply, token_apply, h, ↓reduceIte]

theorem expectSymbol_apply {x : Symbol} {s : State} (h : s.token.kind = .symbol x) : expectSymbol x s = advance s :=
  expect_apply h

theorem expectKeyword_apply {word : String} {s : State} (h : s.token.isKeyword [word] = true) :
    expectKeyword word s = advance s := by
  simp only [expectKeyword, bind_apply, atKeyword_apply, h, ↓reduceIte]

/-- A keyword that may be missing is taken if it is at hand. -/
theorem skipKeyword_apply (words : List String) (s : State) :
    skipKeyword words s =
      (.ok (), if s.token.isKeyword words then { s with ahead := s.ahead.tail } else s) := by
  simp only [skipKeyword, bind_apply, atKeyword_apply]
  split <;> rfl

/-- A complete pattern under construction is added. -/
theorem collectPattern_apply {s : State} {subject predicate object : Term}
    (h : s.scope.current = ⟨some subject, some predicate, some object⟩) :
    collectPattern s = (.ok (), { s with
      scope := { s.scope with patterns := s.scope.patterns ++ [{ subject, predicate, object }] } }) := by
  simp only [collectPattern, bind_apply, get_apply, Scope.addPattern, h, collect_apply]

theorem token_of_ahead {s : State} {t : Token} {later : List Token} (h : s.ahead = t :: later) : s.token = t := by
  simp [State.token, h]

/-! ### The tokens of pieces -/

/-- The first tokens are those of the pieces, and the others follow them. -/
def Ahead : List Piece → List Token → List Token → Prop
  | [], ts, rest => ts = rest
  | p :: ps, ts, rest => ∃ t later, ts = t :: later ∧ p.Matches t ∧ Ahead ps later rest

/-- Pieces stand ahead one list after the other. -/
theorem ahead_append {ps qs : List Piece} {ts rest : List Token} :
    Ahead (ps ++ qs) ts rest ↔ ∃ middle, Ahead ps ts middle ∧ Ahead qs middle rest := by
  induction ps generalizing ts with
  | nil => simp [Ahead]
  | cons p ps ih =>
    simp only [List.cons_append, Ahead, ih]
    constructor
    · rintro ⟨t, later, rfl, ht, middle, hps, hqs⟩
      exact ⟨middle, ⟨t, later, rfl, ht, hps⟩, hqs⟩
    · rintro ⟨middle, ⟨t, later, rfl, ht, hps⟩, hqs⟩
      exact ⟨t, later, rfl, ht, middle, hps, hqs⟩

/-- Each piece stands for one token. -/
theorem Ahead.length {ps : List Piece} {ts rest : List Token} (h : Ahead ps ts rest) :
    ts.length = ps.length + rest.length := by
  induction ps generalizing ts with
  | nil => cases h; simp
  | cons p ps ih =>
    obtain ⟨t, later, rfl, -, hps⟩ := h
    have := ih hps
    simp only [List.length_cons]
    omega

theorem ahead_of_forall₂_append {ps : List Piece} {ts : List Token} (h : List.Forall₂ Piece.Matches ps ts)
    (rest : List Token) : Ahead ps (ts ++ rest) rest := by
  induction h with
  | nil => rfl
  | cons ht _ ih => exact ⟨_, _, rfl, ht, ih⟩

/-- Tokens that match the pieces one by one stand for them. -/
theorem ahead_of_forall₂ {ps : List Piece} {ts : List Token} (h : List.Forall₂ Piece.Matches ps ts) :
    Ahead ps ts [] := by
  have hahead := ahead_of_forall₂_append h []
  rwa [List.append_nil] at hahead

/-! ### Points of focus -/

@[simp]
theorem markers_nil : markers [] = 0 := rfl

@[simp]
theorem markers_cons (p : Piece) (ps : List Piece) :
    markers (p :: ps) = (if p.isMarker then 1 else 0) + markers ps := by
  rw [markers, List.countP_cons, Nat.add_comm]
  rfl

@[simp]
theorem markers_append (ps qs : List Piece) : markers (ps ++ qs) = markers ps + markers qs := List.countP_append

@[simp]
theorem isMarker_symbol (x : Symbol) : (symbol x).isMarker = false := rfl

@[simp]
theorem isMarker_keyword (word : String) : (Piece.keyword word).isMarker = false := rfl

@[simp]
theorem isMarker_name (name : Name) : name.piece.isMarker = false := by cases name <;> rfl

/-! ### What a production does -/

/-- The parser took the tokens before `rest`, met so many points of focus and added the patterns; the next variable
that it makes up has the given number. -/
structure Moves (s after : State) (rest : List Token) (next marks : Nat) (patterns : List Pattern) : Prop where
  ahead : after.ahead = rest
  last : after.last = s.last
  next : after.anonymous = next
  marks : after.focus.toList.length = s.focus.toList.length + marks
  patterns : after.scope.patterns = s.scope.patterns ++ patterns
  labels : after.scope.prefixes = s.scope.prefixes

/-- A step that takes nothing and adds nothing. -/
theorem Moves.refl {s : State} {rest : List Token} (h : s.ahead = rest) : Moves s s rest s.anonymous 0 [] :=
  ⟨h, rfl, rfl, rfl, by simp, rfl⟩

/-- Taking one token. -/
theorem Moves.take {s : State} {t : Token} {rest : List Token} (h : s.ahead = t :: rest) :
    Moves s { s with ahead := s.ahead.tail } rest s.anonymous 0 [] :=
  ⟨by simp [h], rfl, rfl, rfl, by simp, rfl⟩

/-- A step that only takes tokens. -/
theorem Moves.to (s : State) (rest : List Token) : Moves s { s with ahead := rest } rest s.anonymous 0 [] :=
  ⟨rfl, rfl, rfl, rfl, by simp, rfl⟩

theorem Moves.cast {s after : State} {rest : List Token} {next next' marks marks' : Nat}
    {patterns patterns' : List Pattern} (h : Moves s after rest next marks patterns) (hnext : next = next')
    (hmarks : marks = marks') (hpatterns : patterns = patterns') : Moves s after rest next' marks' patterns' := by
  subst hnext hmarks hpatterns
  exact h

/-- What is done after taking tokens. -/
theorem Moves.of_ahead {s after : State} {ahead rest : List Token} {next marks : Nat} {patterns : List Pattern}
    (h : Moves { s with ahead } after rest next marks patterns) : Moves s after rest next marks patterns :=
  ⟨h.ahead, h.last, h.next, h.marks, h.patterns, h.labels⟩

/-- What is done before taking a token. -/
theorem Moves.then_take {s after : State} {t : Token} {rest : List Token} {next marks : Nat} {patterns : List Pattern}
    (h : Moves s after (t :: rest) next marks patterns) :
    Moves s { after with ahead := after.ahead.tail } rest next marks patterns :=
  ⟨by simp [h.ahead], h.last, h.next, h.marks, h.patterns, h.labels⟩

/-- What two steps take, make up and add comes together. -/
theorem Moves.trans {s middle after : State} {rest rest' : List Token} {next next' marks marks' : Nat}
    {patterns patterns' : List Pattern} (h : Moves s middle rest next marks patterns)
    (h' : Moves middle after rest' next' marks' patterns') :
    Moves s after rest' next' (marks + marks') (patterns ++ patterns') where
  ahead := h'.ahead
  last := h'.last.trans h.last
  next := h'.next
  marks := by rw [h'.marks, h.marks, Nat.add_assoc]
  patterns := by rw [h'.patterns, h.patterns, List.append_assoc]
  labels := h'.labels.trans h.labels

/-- The declared labels stand for the given IRIs, and so many points of focus may still come. -/
structure Ready (labels : Labels) (marks : Nat) (s : State) : Prop where
  labels : ∀ l, s.scope.prefixIri? l = labels l
  room : s.focus.toList.length + marks ≤ 1

/-- After some of the points of focus that may come, there is room for the others. -/
theorem Ready.after {labels : Labels} {total marks marks' next : Nat} {s after : State} {rest : List Token}
    {patterns : List Pattern} (h : Ready labels total s) (hmoves : Moves s after rest next marks patterns)
    (hle : marks + marks' ≤ total) : Ready labels marks' after where
  labels l := by rw [← h.labels l, Scope.prefixIri?, hmoves.labels, Scope.prefixIri?]
  room := by have := h.room; have := hmoves.marks; omega

/-- The production reads the pieces, before a token as required, as what the reading says for the number of the next
variable to be made up. It leaves the pattern under construction as it is. -/
def Reads {α : Type} (labels : Labels) (production : Parser α) (pieces : List Piece) (reading : Nat → Reading α)
    (Follow : Token → Prop) : Prop :=
  ∀ s rest, Ready labels (markers pieces) s → Ahead pieces s.ahead rest → Follow (rest.headD s.last) →
    ∃ after, production s = (.ok (reading s.anonymous).value, after) ∧
      Moves s after rest (reading s.anonymous).next (markers pieces) (reading s.anonymous).patterns ∧
      after.scope.current = s.scope.current

/-- The production reads the pieces, before a token as required, and adds the patterns of the reading; where the pieces
hold a test for absence it stops with a fault instead. -/
def Settles (labels : Labels) (production : Parser Unit) (pieces : List Piece) (reading : Nat → Reading Unit)
    (Follow : Token → Prop) (absence : Bool) : Prop :=
  ∀ s rest, Ready labels (markers pieces) s → Ahead pieces s.ahead rest → Follow (rest.headD s.last) →
    if absence then ∃ start after, production s = (.error (.at start .missingConstraint), after)
    else ∃ after, production s = (.ok (), after) ∧
      Moves s after rest (reading s.anonymous).next (markers pieces) (reading s.anonymous).patterns

/-- One production after another. -/
theorem Settles.seq {labels : Labels} {first second : Parser Unit} {ps qs : List Piece}
    {reading reading' : Nat → Reading Unit} {Follow Follow' : Token → Prop} {absence absence' : Bool}
    (h : Settles labels first ps reading Follow absence) (h' : Settles labels second qs reading' Follow' absence')
    (hfollow : ∀ ts rest last, Ahead qs ts rest → Follow' (rest.headD last) → Follow (ts.headD last)) :
    Settles labels (do first; second) (ps ++ qs)
      (fun n => ⟨(), (reading n).patterns ++ (reading' (reading n).next).patterns, (reading' (reading n).next).next⟩)
      Follow' (absence || absence') := by
  intro s rest hs hahead hend
  rw [markers_append] at hs ⊢
  rw [ahead_append] at hahead
  obtain ⟨later, hps, hqs⟩ := hahead
  have hfirst := h s later (hs.after (Moves.refl rfl) (by omega)) hps (hfollow later rest s.last hqs hend)
  cases absence with
  | true =>
    obtain ⟨start, after, hfail⟩ := hfirst
    exact ⟨start, after, by simp only [bind_apply, hfail]⟩
  | false =>
    obtain ⟨middle, hok, hmoves⟩ := hfirst
    have hsecond := h' middle rest (hs.after hmoves (by omega)) (hmoves.ahead ▸ hqs) (by rw [hmoves.last]; exact hend)
    cases absence' with
    | true =>
      obtain ⟨start, after, hfail⟩ := hsecond
      exact ⟨start, after, by simp only [bind_apply, hok, hfail]⟩
    | false =>
      obtain ⟨after, hok', hmoves'⟩ := hsecond
      refine ⟨after, by simp only [bind_apply, hok, hok'], ?_⟩
      simpa only [hmoves.next] using hmoves.trans hmoves'

/-- A term whose value is not used, before another production. -/
theorem Reads.then_settles {α : Type} {labels : Labels} {first : Parser α} {second : Parser Unit} {ps qs : List Piece}
    {value : α} {reading : Nat → Reading Unit} {Follow Follow' : Token → Prop} {absence : Bool}
    (h : Reads labels first ps (fun n => ⟨value, [], n⟩) Follow) (h' : Settles labels second qs reading Follow' absence)
    (hfollow : ∀ ts rest last, Ahead qs ts rest → Follow' (rest.headD last) → Follow (ts.headD last)) :
    Settles labels (do let _ ← first; second) (ps ++ qs) reading Follow' absence := by
  intro s rest hs hahead hend
  rw [markers_append] at hs ⊢
  rw [ahead_append] at hahead
  obtain ⟨later, hps, hqs⟩ := hahead
  obtain ⟨middle, hok, hmoves, -⟩ :=
    h s later (hs.after (Moves.refl rfl) (by omega)) hps (hfollow later rest s.last hqs hend)
  have hsecond := h' middle rest (hs.after hmoves (by omega)) (hmoves.ahead ▸ hqs) (by rw [hmoves.last]; exact hend)
  cases absence with
  | true =>
    obtain ⟨start, after, hfail⟩ := hsecond
    exact ⟨start, after, by simp only [bind_apply, hok, hfail]⟩
  | false =>
    obtain ⟨after, hok', hmoves'⟩ := hsecond
    refine ⟨after, by simp only [bind_apply, hok, hok'], ?_⟩
    have hanonymous : middle.anonymous = s.anonymous := hmoves.next
    simpa [hanonymous] using hmoves.trans hmoves'

/-- A production that takes a token and goes on as another one. -/
theorem Settles.cons {labels : Labels} {production next : Parser Unit} {p : Piece} {ps : List Piece}
    {reading : Nat → Reading Unit} {Follow : Token → Prop} {absence : Bool}
    (h : Settles labels next ps reading Follow absence) (hp : p.isMarker = false)
    (hstep : ∀ (s : State) (t : Token) (later rest : List Token), s.ahead = t :: later → p.Matches t →
      Ahead ps later rest → production s = next { s with ahead := later }) :
    Settles labels production (p :: ps) reading Follow absence := by
  intro s rest hs hahead hend
  obtain ⟨t, later, hts, ht, hlater⟩ := hahead
  have hmarkers : markers (p :: ps) = markers ps := by simp [hp]
  rw [hmarkers] at hs ⊢
  rw [hstep s t later rest hts ht hlater]
  have hnext := h { s with ahead := later } rest (hs.after (Moves.to s later) (by omega)) hlater hend
  cases absence with
  | true => exact hnext
  | false =>
    obtain ⟨after, hok, hmoves⟩ := hnext
    exact ⟨after, hok, hmoves.of_ahead⟩

/-- A production that does the same as another one where the pieces stand. -/
theorem Settles.congr {labels : Labels} {production production' : Parser Unit} {ps : List Piece}
    {reading : Nat → Reading Unit} {Follow Follow' : Token → Prop} {absence : Bool}
    (h : Settles labels production' ps reading Follow' absence)
    (hfollow : ∀ t, Follow t → Follow' t)
    (hstep : ∀ (s : State) (rest : List Token), Ahead ps s.ahead rest → production s = production' s) :
    Settles labels production ps reading Follow absence := by
  intro s rest hs hahead hend
  rw [hstep s rest hahead]
  exact h s rest hs hahead (hfollow _ hend)

end PointOfFocus.Query
