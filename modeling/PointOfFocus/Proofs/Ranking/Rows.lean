import PointOfFocus.Proofs.Ranking.Measure

/-!
# Rows of values

A candidate that is to be counted again is written as a row: one term, or the IRIs of the hops of a path. No row is
asked of a blank node, nor of a text that is not made of as many hops as the path has. Any other candidate is taken at
its word, but not every text is an IRI and not every word is a language tag, and a candidate that cannot be written as
the term that it says it is stops the measurement with a fault (`valuesRow_outcome`).
-/

namespace PointOfFocus.Ranking

open PointOfFocus.Data (ShapeError)
open PointOfFocus.Rdf

/-! ### Writing IRIs -/

/-- The IRI in angle brackets. -/
def bracketed (iri : String) : String := "<" ++ iri ++ ">"

private theorem render_iri (iri : String) :
    (Term.iri iri).render = if isWritableIri iri then .ok (bracketed iri) else .error (.invalidIri iri) := by
  rw [Term.render, renderIri, bracketed]

/-- IRIs are written one after the other, up to the first one that cannot be written. -/
private theorem mapM_render_iri (iris : List (List Char)) :
    (iris.mapM fun iri => (Term.iri (String.ofList iri)).render) =
      match (iris.map String.ofList).find? (!isWritableIri ·) with
      | some iri => .error (.invalidIri iri)
      | none => .ok ((iris.map String.ofList).map bracketed) := by
  induction iris with
  | nil => rfl
  | cons iri iris ih =>
    rw [List.mapM_cons, ih, render_iri, List.map_cons, List.find?_cons]
    cases hwritable : isWritableIri (String.ofList iri) with
    | false => rfl
    | true => cases (iris.map String.ofList).find? (!isWritableIri ·) <;> rfl

/-- The row of a path. -/
def pathRow (iris : List String) : String := "(" ++ " ".intercalate (iris.map bracketed) ++ ")"

namespace Candidate

/-! ### Single terms -/

/-- Why a candidate cannot be written as the term that it says it is. -/
inductive TermFault (c : Candidate) : CandidateError → Prop
  /-- It is an IRI with a character that IRIs do not have. -/
  | iri (htype : c.type = "uri") (hiri : isWritableIri c.value = false) : TermFault c (.term (.invalidIri c.value))
  /-- Its language is a text that is no language tag. -/
  | language {tag : String} (htype : c.type ≠ "uri") (hlanguage : c.language = .text tag) (hne : tag ≠ "")
    (htag : isLanguageTag tag = false) : TermFault c (.term (.badLanguage tag))
  /-- Its language is no text. -/
  | languageShape {e : ShapeError} (htype : c.type ≠ "uri") (hlanguage : c.language.isTrue = true)
    (hshape : languageTag c.language = .error e) : TermFault c (.shape e)
  /-- It has no language, and its datatype is nothing that could be searched. -/
  | datatypeShape {e : ShapeError} (htype : c.type ≠ "uri") (hlanguage : c.language.isTrue = false)
    (hdatatype : c.datatype.isTrue = true) (hshape : datatypeIri c.datatype = .error e) : TermFault c (.shape e)

private theorem languageTag_eq_ok {v : Data.Value} {tag : String} (h : languageTag v = .ok tag) : v = .text tag := by
  cases v with
  | text s => cases h; rfl
  | _ => cases h

private theorem build_language {tag : String} (value : String) (h : tag ≠ "") :
    Literal.build value (some tag) none =
      if isLanguageTag tag then .ok ⟨value, .language tag⟩ else .error (.badLanguage tag) := by
  have hsome : ¬some tag = some "" := fun heq => h (Option.some.inj heq)
  simp only [Literal.build, hsome, ↓reduceIte]

variable {c : Candidate} {e : CandidateError} {pathLength : Int}

private theorem termFault_of_literal (htype : c.type ≠ "uri") (h : c.literal = .error e) : c.TermFault e := by
  unfold literal at h
  by_cases hlanguage : c.language.isTrue = true
  · rw [if_pos hlanguage] at h
    cases htag : languageTag c.language with
    | error cause =>
      rw [htag] at h
      cases h
      exact .languageShape htype hlanguage htag
    | ok tag =>
      have htext := languageTag_eq_ok htag
      have hne : tag ≠ "" := by
        rw [htext] at hlanguage
        exact of_decide_eq_true hlanguage
      simp only [htag, Except.mapError, bind, Except.bind, build_language c.value hne] at h
      cases hvalid : isLanguageTag tag with
      | true => simp [hvalid] at h
      | false =>
        simp only [hvalid, Bool.false_eq_true, ↓reduceIte] at h
        cases h
        exact .language htype htext hne hvalid
  · rw [if_neg hlanguage] at h
    by_cases hdatatype : c.datatype.isTrue = true
    · rw [if_pos hdatatype] at h
      cases hiri : datatypeIri c.datatype with
      | error cause =>
        rw [hiri] at h
        cases h
        exact .datatypeShape htype (Bool.eq_false_iff.2 hlanguage) hdatatype hiri
      | ok iri =>
        rw [hiri] at h
        cases h
    · rw [if_neg hdatatype] at h
      cases h

private theorem termFault_of_render (hbindable : c.isBindable = true) (h : c.render = .error e) : c.TermFault e := by
  unfold render at h
  by_cases htype : c.type = "uri"
  · rw [if_pos htype, render_iri] at h
    cases hiri : isWritableIri c.value with
    | true => rw [hiri] at h; cases h
    | false => rw [hiri] at h; cases h; exact .iri htype hiri
  · rw [if_neg htype, hbindable, if_neg (by decide)] at h
    cases hliteral : c.literal with
    | ok l => rw [hliteral] at h; cases h
    | error cause => rw [hliteral] at h; cases h; exact termFault_of_literal htype hliteral

private theorem TermFault.literal (h : c.TermFault e) (htype : c.type ≠ "uri") : c.literal = .error e := by
  unfold Candidate.literal
  cases h with
  | iri heq => exact absurd heq htype
  | @language tag _ hlanguage hne htag =>
    have htrue : c.language.isTrue = true := by
      rw [hlanguage]
      exact decide_eq_true hne
    have hread : languageTag c.language = .ok tag := by rw [hlanguage]; rfl
    simp only [htrue, ↓reduceIte, hread, Except.mapError, bind, Except.bind, build_language c.value hne, htag,
      Bool.false_eq_true]
  | languageShape _ hlanguage hshape =>
    rw [if_pos hlanguage, hshape]
    rfl
  | datatypeShape _ hlanguage hdatatype hshape =>
    rw [if_neg (by simp [hlanguage]), if_pos hdatatype, hshape]
    rfl

private theorem TermFault.render (h : c.TermFault e) (hbindable : c.isBindable = true) : c.render = .error e := by
  unfold Candidate.render
  by_cases htype : c.type = "uri"
  · rw [if_pos htype, render_iri]
    cases h with
    | iri _ hiri => rw [hiri]; rfl
    | language hne | languageShape hne | datatypeShape hne => exact absurd htype hne
  · rw [if_neg htype, hbindable, if_neg (by decide), h.literal htype]
    rfl

/-! ### Paths -/

/-- The IRIs of the hops that a candidate is made of, if each hop has its angle brackets. -/
def hops? (c : Candidate) : Option (List String) :=
  ((splitHops c.value.toList).mapM unbracketed?).map (·.map String.ofList)

theorem toList_bracketed (iri : String) : (bracketed iri).toList = '<' :: (iri.toList ++ ['>']) := by
  simp [bracketed]

private theorem unbracketed?_eq_some_iff {cs inner : List Char} :
    unbracketed? cs = some inner ↔ cs = (bracketed (String.ofList inner)).toList := by
  rw [toList_bracketed, String.toList_ofList]
  constructor
  · intro h
    unfold unbracketed? at h
    split at h
    next rest =>
      split at h
      next hlast =>
        obtain ⟨front, rfl⟩ := List.getLast?_eq_some_iff.1 hlast
        rw [List.dropLast_concat] at h
        cases h
        rfl
      next => cases h
    next => cases h
  · rintro rfl
    simp [unbracketed?]

private theorem mapM_unbracketed? {hops inner : List (List Char)} :
    hops.mapM unbracketed? = some inner ↔ hops = inner.map fun iri => (bracketed (String.ofList iri)).toList := by
  induction hops generalizing inner with
  | nil => cases inner <;> simp
  | cons hop hops ih =>
    cases inner with
    | nil => simp [List.mapM_cons, Option.bind_eq_some_iff]
    | cons iri inner => simp [List.mapM_cons, Option.bind_eq_some_iff, unbracketed?_eq_some_iff, ih]

/-- A candidate has hops if and only if its text is these IRIs in angle brackets with slashes between them. -/
theorem hops?_eq_some_iff {iris : List String} :
    c.hops? = some iris ↔ splitHops c.value.toList = iris.map fun iri => (bracketed iri).toList := by
  rw [hops?, Option.map_eq_some_iff]
  constructor
  · rintro ⟨inner, hinner, rfl⟩
    rw [mapM_unbracketed?.1 hinner, List.map_map]
    rfl
  · intro h
    refine ⟨iris.map String.toList, mapM_unbracketed?.2 ?_, ?_⟩
    · simp [h]
    · simp

private theorem length_hops? {iris : List String} (h : c.hops? = some iris) :
    iris.length = (splitHops c.value.toList).length := by
  rw [hops?_eq_some_iff.1 h, List.length_map]

private theorem canBeBound_path (hlength : pathLength ≠ 0) :
    c.CanBeBound pathLength ↔ c.isBindable = true ∧ ∃ iris, c.hops? = some iris ∧ (iris.length : Int) = pathLength := by
  have hsome : (∃ iris, c.hops? = some iris) ↔ ∀ hop ∈ splitHops c.value.toList, (unbracketed? hop).isSome := by
    rw [← isSome_mapM, ← Option.isSome_iff_exists, hops?, Option.isSome_map]
  refine and_congr_right fun _ => ⟨fun h => ?_, fun ⟨iris, hiris, hcount⟩ _ => ?_⟩
  · obtain ⟨hcount, hbracketed⟩ := h hlength
    obtain ⟨iris, hiris⟩ := hsome.2 hbracketed
    exact ⟨iris, hiris, by rw [length_hops? hiris, hcount]⟩
  · exact ⟨by rw [← length_hops? hiris, hcount], hsome.1 ⟨iris, hiris⟩⟩

/-- A candidate for a path is written as the IRIs of its hops if there are as many as there should be, up to the first
that cannot be written. -/
theorem valuesRow_path (hbindable : c.isBindable = true) (hlength : pathLength ≠ 0) :
    c.valuesRow pathLength =
      match c.hops? with
      | none => .ok none
      | some iris =>
        if (iris.length : Int) ≠ pathLength then .ok none
        else match iris.find? (!isWritableIri ·) with
          | some iri => .error (.term (.invalidIri iri))
          | none => .ok (some (pathRow iris)) := by
  unfold valuesRow hops?
  rw [hbindable, if_neg (by decide), if_neg hlength]
  cases hinner : (splitHops c.value.toList).mapM unbracketed? with
  | none => simp only [hinner, Option.map_none]
  | some inner =>
    have hlengths : (splitHops c.value.toList).length = inner.length := by
      rw [mapM_unbracketed?.1 hinner, List.length_map]
    simp only [hinner, hlengths, Option.map_some, List.length_map, mapM_render_iri]
    by_cases hcount : (inner.length : Int) = pathLength
    · cases (inner.map String.ofList).find? (!isWritableIri ·) <;> simp only [hcount] <;> rfl
    · simp only [hcount, ne_eq, not_false_eq_true, ↓reduceIte]

/-! ### Rows -/

/-- Why a candidate that can be bound again has no row. -/
inductive RowFault (c : Candidate) (pathLength : Int) : CandidateError → Prop
  /-- It cannot be written as a term. -/
  | term {e : CandidateError} (hlength : pathLength = 0) (hterm : c.TermFault e) : RowFault c pathLength e
  /-- The IRI of a hop, the first of its kind, cannot be written. -/
  | hop {iris : List String} {iri : String} (hlength : pathLength ≠ 0) (hhops : c.hops? = some iris)
    (hiri : iris.find? (!isWritableIri ·) = some iri) : RowFault c pathLength (.term (.invalidIri iri))

private theorem valuesRow_term_error_iff (hbindable : c.isBindable = true) :
    c.valuesRow 0 = .error e ↔ c.TermFault e := by
  have hterm : c.valuesRow 0 = c.render.map some := by
    rw [valuesRow, hbindable]
    rfl
  rw [hterm]
  constructor
  · intro h
    cases hrender : c.render with
    | ok row => rw [hrender] at h; cases h
    | error cause => rw [hrender] at h; cases h; exact termFault_of_render hbindable hrender
  · intro h
    rw [h.render hbindable]
    rfl

private theorem valuesRow_path_error_iff (hbindable : c.isBindable = true) (hlength : pathLength ≠ 0) :
    c.valuesRow pathLength = .error e ↔ ∃ iris iri, c.hops? = some iris ∧ (iris.length : Int) = pathLength ∧
      iris.find? (!isWritableIri ·) = some iri ∧ e = .term (.invalidIri iri) := by
  rw [valuesRow_path hbindable hlength]
  constructor
  · intro h
    cases hhops : c.hops? with
    | none => rw [hhops] at h; cases h
    | some iris =>
      simp only [hhops] at h
      by_cases hcount : (iris.length : Int) = pathLength
      · rw [if_neg (by simpa using hcount)] at h
        cases hiri : iris.find? (!isWritableIri ·) with
        | none => rw [hiri] at h; cases h
        | some iri =>
          rw [hiri] at h
          cases h
          exact ⟨iris, iri, rfl, hcount, hiri, rfl⟩
      · rw [if_pos hcount] at h
        cases h
  · rintro ⟨iris, iri, hhops, hcount, hiri, rfl⟩
    simp only [hhops, hiri, hcount, ne_eq, not_true_eq_false, ↓reduceIte]

private theorem valuesRow_error_iff :
    c.valuesRow pathLength = .error e ↔ c.CanBeBound pathLength ∧ c.RowFault pathLength e := by
  by_cases hbindable : c.isBindable = true
  swap
  · have hnone : c.valuesRow pathLength = .ok none := by
      rw [valuesRow, Bool.eq_false_iff.2 hbindable]
      rfl
    rw [hnone]
    exact ⟨nofun, fun h => absurd h.1.1 hbindable⟩
  by_cases hlength : pathLength = 0
  · subst hlength
    rw [valuesRow_term_error_iff hbindable]
    refine ⟨fun h => ⟨⟨hbindable, fun hne => absurd rfl hne⟩, .term rfl h⟩, ?_⟩
    rintro ⟨-, hfault⟩
    cases hfault with
    | term _ hterm => exact hterm
    | hop hne => exact absurd rfl hne
  · rw [canBeBound_path hlength, valuesRow_path_error_iff hbindable hlength]
    constructor
    · rintro ⟨iris, iri, hhops, hcount, hiri, rfl⟩
      exact ⟨⟨hbindable, iris, hhops, hcount⟩, .hop hlength hhops hiri⟩
    · rintro ⟨⟨-, iris, hiris, hcount⟩, hfault⟩
      cases hfault with
      | term hzero => exact absurd hzero hlength
      | @hop _ iri _ hhops hiri =>
        cases hiris.symm.trans hhops
        exact ⟨iris, iri, hiris, hcount, hiri, rfl⟩

/-- No row is asked of a candidate that cannot be bound again. One that can be bound has a row, unless it cannot be
written as the term or the path that it says it is, and then there is a fault that names the part which is at fault. -/
theorem valuesRow_outcome (c : Candidate) (pathLength : Int) :
    (c.valuesRow pathLength = .ok none ↔ ¬c.CanBeBound pathLength) ∧
      ∀ e, c.valuesRow pathLength = .error e ↔ c.CanBeBound pathLength ∧ c.RowFault pathLength e := by
  refine ⟨⟨fun h => ?_, fun h => ?_⟩, fun e => valuesRow_error_iff⟩
  · rw [← isSome_valuesRow h]
    decide
  · cases hrow : c.valuesRow pathLength with
    | error e => exact absurd (valuesRow_error_iff.1 hrow).1 h
    | ok row =>
      rw [← isSome_valuesRow hrow, Bool.not_eq_true, Option.isSome_eq_false_iff, Option.isNone_iff_eq_none] at h
      rw [h]

example : ({ value := "http://ex/a b" } : Candidate).valuesRow 0 = .error (.term (.invalidIri "http://ex/a b")) := by
  rfl

end Candidate

end PointOfFocus.Ranking
