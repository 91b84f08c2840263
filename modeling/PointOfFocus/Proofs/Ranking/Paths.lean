import PointOfFocus.Proofs.Query.Projection
import PointOfFocus.Proofs.Ranking.Rows

/-!
# Paths as candidates

An endpoint finds a path as one text, which the projection of the path puts together. Splitting a text at its slashes
undoes putting together parts without spaces (`splitHops_intercalate`), and putting the parts of a text together gives
the text back, whatever it is (`intercalate_splitHops`). So a candidate has a row for a path if and only if its text is
that of a path with as many hops, all of them IRIs that can be written, and then the row lists these
(`valuesRow_eq_some_iff`). In particular there is a row for every text that the projection gives to IRIs that can be
written (`valuesRow_projection`).
-/

namespace PointOfFocus.Ranking

open PointOfFocus.Query
open PointOfFocus.Rdf

/-- The text of a path: the IRIs of its hops in angle brackets, with slashes between them. -/
def pathText (iris : List String) : String := " / ".intercalate (iris.map bracketed)

namespace Candidate

/-! ### Splitting and putting together -/

private theorem splitHops_append {hop rest first : List Char} {others : List (List Char)} (h : ' ' ∉ hop)
    (hrest : splitHops rest = first :: others) : splitHops (hop ++ rest) = (hop ++ first) :: others := by
  induction hop with
  | nil => exact hrest
  | cons c hop ih =>
    obtain ⟨hc, hhop⟩ := not_or.1 (List.mem_cons.not.1 h)
    rw [List.cons_append, splitHops, ih hhop, List.cons_append]
    -- no slash with its blanks starts at a character that is no blank
    exact fun _ hspace _ => hc hspace.symm

private theorem splitHops_intercalate {hops : List (List Char)} (hne : hops ≠ []) (h : ∀ hop ∈ hops, ' ' ∉ hop) :
    splitHops (" / ".toList.intercalate hops) = hops := by
  induction hops with
  | nil => exact absurd rfl hne
  | cons hop hops ih =>
    obtain ⟨hhop, hhops⟩ := List.forall_mem_cons.1 h
    cases hops with
    | nil =>
      have halone : splitHops (hop ++ []) = [hop ++ []] := splitHops_append hhop rfl
      simpa using halone
    | cons next hops =>
      have hslash : splitHops (" / ".toList ++ " / ".toList.intercalate (next :: hops)) = [] :: next :: hops :=
        congrArg ([] :: ·) (ih (by simp) hhops)
      rw [List.intercalate_cons_cons, List.append_assoc, splitHops_append hhop hslash, List.append_nil]

private theorem splitHops_ne_nil (cs : List Char) : splitHops cs ≠ [] := by
  fun_cases splitHops cs <;> simp_all

private theorem intercalate_splitHops (cs : List Char) : " / ".toList.intercalate (splitHops cs) = cs := by
  fun_induction splitHops cs with
  | case1 => rfl
  | case2 cs ih =>
    rw [List.intercalate_cons_of_ne_nil (splitHops_ne_nil cs), ih]
    rfl
  | case3 c cs _ hnone => exact absurd hnone (splitHops_ne_nil cs)
  | case4 c cs _ hop hops hsplit ih =>
    rw [hsplit] at ih
    cases hops with
    | nil => simpa using ih
    | cons next hops => simpa [List.intercalate_cons_cons] using ih

/-! ### Texts of paths -/

variable {c : Candidate} {iris : List String}

private theorem toList_pathText (iris : List String) :
    (pathText iris).toList = " / ".toList.intercalate (iris.map fun iri => (bracketed iri).toList) := by
  rw [pathText, String.toList_intercalate, List.map_map]
  rfl

private theorem value_of_hops? (h : c.hops? = some iris) : c.value = pathText iris := by
  rw [hops?_eq_some_iff] at h
  rw [String.ext_iff, toList_pathText, ← h, intercalate_splitHops]

private theorem space_notMem_of_isWritableIri {iri : String} (h : isWritableIri iri = true) :
    ' ' ∉ (bracketed iri).toList := by
  intro hspace
  rw [toList_bracketed] at hspace
  have hmem : ' ' ∈ iri.toList := by simpa using hspace
  have hallowed := List.all_eq_true.1 h ' ' hmem
  exact absurd hallowed (by decide)

private theorem hops?_of_value (hne : iris ≠ []) (hwritable : ∀ iri ∈ iris, isWritableIri iri = true)
    (hvalue : c.value = pathText iris) : c.hops? = some iris := by
  rw [hops?_eq_some_iff, hvalue, toList_pathText]
  refine splitHops_intercalate (by simpa using hne) fun hop hhop => ?_
  obtain ⟨iri, hiri, rfl⟩ := List.mem_map.1 hhop
  exact space_notMem_of_isWritableIri (hwritable iri hiri)

/-! ### Rows of paths -/

/-- A candidate that is no blank node has a row for a path if and only if it is the text of a path of that length whose
IRIs can be written. The row lists the IRIs in their order. -/
theorem valuesRow_eq_some_iff {length : Int} {row : String} (hbindable : c.isBindable = true) (hlength : length ≠ 0) :
    c.valuesRow length = .ok (some row) ↔
      ∃ iris : List String, (iris.length : Int) = length ∧ (∀ iri ∈ iris, isWritableIri iri = true) ∧
        c.value = pathText iris ∧ row = pathRow iris := by
  rw [valuesRow_path hbindable hlength]
  constructor
  · intro h
    cases hhops : c.hops? with
    | none => rw [hhops] at h; cases h
    | some iris =>
      simp only [hhops] at h
      by_cases hcount : (iris.length : Int) = length
      · rw [if_neg (by simpa using hcount)] at h
        cases hiri : iris.find? (!isWritableIri ·) with
        | some iri => rw [hiri] at h; cases h
        | none =>
          rw [hiri] at h
          cases h
          have hwritable : ∀ iri ∈ iris, isWritableIri iri = true := by simpa using hiri
          exact ⟨iris, hcount, hwritable, value_of_hops? hhops, rfl⟩
      · rw [if_pos hcount] at h
        cases h
  · rintro ⟨iris, hcount, hwritable, hvalue, rfl⟩
    have hne : iris ≠ [] := by
      rintro rfl
      exact hlength hcount.symm
    have hnone : iris.find? (!isWritableIri ·) = none :=
      List.find?_eq_none.2 fun iri hiri => by simp [hwritable iri hiri]
    simp only [hops?_of_value hne hwritable hvalue, hcount, hnone, ne_eq, not_true_eq_false, ↓reduceIte]

/-- For IRIs that can be written the projection of a path gives a text that has a row for the path, which lists the
IRIs. Any candidate that is no blank node and has a row for the path is the text that the projection gives to the IRIs
of the row. -/
theorem valuesRow_projection {c : Candidate} {length : Int} (hbindable : c.isBindable = true) (hlength : 1 ≤ length) :
    (∀ (iris : List String) (μ : Assignment), (∀ iri ∈ iris, isWritableIri iri = true) →
      (countTo length).map (fun i => (Term.hop i).value? μ) = iris.map (fun iri => some (.iri iri)) →
      projected? μ (pathProjection length) = some (.focus, pathText iris) ∧
        ({ c with value := pathText iris } : Candidate).valuesRow length = .ok (some (pathRow iris))) ∧
    ∀ row, c.valuesRow length = .ok (some row) → ∃ iris : List String, (iris.length : Int) = length ∧
      (∀ iri ∈ iris, isWritableIri iri = true) ∧ c.value = pathText iris ∧ row = pathRow iris := by
  have hne : length ≠ 0 := by omega
  refine ⟨fun iris μ hwritable hvalues => ⟨projected?_pathProjection hlength hvalues, ?_⟩,
    fun row => (valuesRow_eq_some_iff hbindable hne).1⟩
  have hcount : (iris.length : Int) = length := by
    have hlengths := congrArg List.length hvalues
    rw [countTo, List.length_map, List.length_map, List.length_range, List.length_map] at hlengths
    omega
  have hbindable' : ({ c with value := pathText iris } : Candidate).isBindable = true := hbindable
  exact (valuesRow_eq_some_iff hbindable' hne).2 ⟨iris, hcount, hwritable, rfl, rfl⟩

/-- The two hops have IRIs for their values, and the row for the text that the projection makes of them lists both. -/
theorem valuesRow_projection_two :
    let μ : Assignment := fun x => match x with
      | .var "POF1" => some (.iri "http://ex/p")
      | .var "POF2" => some (.iri "http://ex/q")
      | _ => none
    let c : Candidate := { value := "<http://ex/p> / <http://ex/q>" }
    c.isBindable = true ∧ (1 : Int) ≤ 2 ∧ projected? μ (pathProjection 2) = some (.focus, c.value) ∧
      c.valuesRow 2 = .ok (some "(<http://ex/p> <http://ex/q>)") := by
  intro μ c
  have hbindable : c.isBindable = true := by decide
  have hlength : (1 : Int) ≤ 2 := by decide
  obtain ⟨htext, hrow⟩ := (valuesRow_projection hbindable hlength).1 ["http://ex/p", "http://ex/q"] μ (by decide) rfl
  have hvalue : pathText ["http://ex/p", "http://ex/q"] = c.value := by decide
  rw [hvalue] at htext hrow
  exact ⟨hbindable, hlength, htext, hrow⟩

end Candidate

end PointOfFocus.Ranking
