import PointOfFocus.Proofs.Query.Terms

/-!
# Paths are told apart by their text

No two paths of queries are written alike (`pathText_injective`). As a part of another path every path says itself where
it ends: an IRI at its bracket, a sequence or an alternative at its last parenthesis, an inverse with the part after its
caret. So whatever is written behind a part, it can be cut off again (`PathShape.partUnique`), and the parts of a
sequence or an alternative are found one after the other, with the sign between them (`partsText_unique`).
-/

namespace PointOfFocus.Query

open PointOfFocus.Rdf

/-- The first of a character is found again, and so is the last one. -/
theorem append_cons_unique {c : Char} {cs ds rest rest' : List Char} (h : cs ++ c :: rest = ds ++ c :: rest')
    (hc : c ∉ cs ∧ c ∉ ds ∨ c ∉ rest ∧ c ∉ rest') : cs = ds ∧ rest = rest' := by
  have hnil {between more more' : List Char} (h : c :: more = between ++ c :: more')
      (hc : c ∉ between ∨ c ∉ more) : between = [] := by
    cases between with
    | nil => rfl
    | cons d between =>
      obtain ⟨rfl, rfl⟩ := List.cons.inj h
      simp at hc
  rcases List.append_eq_append_iff.1 h with ⟨between, rfl, hrest⟩ | ⟨between, rfl, hrest⟩
  · obtain rfl := hnil hrest (hc.imp (fun hc hmem => hc.2 (List.mem_append_right cs hmem)) And.left)
    exact ⟨(List.append_nil cs).symm, (List.cons.inj hrest).2⟩
  · obtain rfl := hnil hrest (hc.imp (fun hc hmem => hc.1 (List.mem_append_right ds hmem)) And.right)
    exact ⟨List.append_nil ds, (List.cons.inj hrest).2.symm⟩

/-! ### The characters of a path -/

/-- The characters of a part of a path, given those of the part alone. -/
def enclosed (t : Term) (cs : List Char) : List Char :=
  if t.isCompound then '(' :: cs ++ [')'] else cs

mutual

/-- The characters of a path. -/
def pathText : Term → List Char
  | .iri iri => '<' :: iri.toList ++ ['>']
  | .sequence ts => (partsText '/' ts).tail
  | .alternative ts => (partsText '|' ts).tail
  | .inverse t => '^' :: enclosed t (pathText t)
  | _ => []

/-- The characters of the parts of a path, with a sign before each of them. -/
def partsText (sign : Char) : List Term → List Char
  | [] => []
  | t :: ts => sign :: enclosed t (pathText t) ++ partsText sign ts

end

/-- The characters of a path as a part of another one. -/
def partText (t : Term) : List Char := enclosed t (pathText t)

private theorem toList_parenthesize (t : Term) (cs : List Char) :
    (t.parenthesize (String.ofList cs)).toList = enclosed t cs := by
  unfold Term.parenthesize enclosed
  split <;> simp

private theorem toList_intercalate (sign : Char) (texts : List String) :
    ((String.singleton sign).intercalate texts).toList = (texts.flatMap (sign :: ·.toList)).tail := by
  induction texts with
  | nil => rfl
  | cons text texts ih =>
    cases texts with
    | nil => simp
    | cons next texts =>
      rw [String.intercalate_cons_of_ne_nil (by simp), String.toList_append, ih]
      simp

private theorem partsText_eq (sign : Char) (ts : List Term) : partsText sign ts = ts.flatMap (sign :: partText ·) := by
  induction ts with
  | nil => rfl
  | cons t ts ih => rw [partsText, ih, List.flatMap_cons, partText]

private theorem renderParts_eq {ts : List Term} (h : ∀ t ∈ ts, t.render = .ok (String.ofList (pathText t))) :
    Term.renderParts ts = .ok (ts.map fun t => String.ofList (partText t)) := by
  induction ts with
  | nil => rfl
  | cons t ts ih =>
    obtain ⟨ht, hts⟩ := List.forall_mem_cons.1 h
    rw [Term.renderParts, ht, ih hts, List.map_cons, partText, ← toList_parenthesize, String.ofList_toList]
    rfl

/-- A path is written with its characters. -/
theorem PathShape.render_eq {t : Term} (h : PathShape t) : t.render = .ok (String.ofList (pathText t)) := by
  have hjoin (sign : Char) (ts : List Term) :
      (String.singleton sign).intercalate (ts.map fun t => String.ofList (partText t)) =
        String.ofList (partsText sign ts).tail := by
    rw [String.ext_iff, toList_intercalate, String.toList_ofList, partsText_eq, List.flatMap_map]
    simp only [String.toList_ofList]
  induction h with
  | iri h =>
    rw [Term.render, h.renderIri, pathText]
    simp [String.ext_iff]
  | sequence _ _ _ ih =>
    rw [Term.render, renderParts_eq ih, pathText, ← hjoin]
    rfl
  | alternative _ _ _ ih =>
    rw [Term.render, renderParts_eq ih, pathText, ← hjoin]
    rfl
  | inverse _ ih =>
    rw [Term.render, ih, pathText, ← toList_parenthesize]
    simp [bind, Except.bind, pure, Except.pure]

/-! ### Parts of a path -/

/-- What is written as this part of a path and what comes after it are found again. -/
def PartUnique (t : Term) : Prop :=
  ∀ {u : Term} {rest rest' : List Char}, PathShape u → partText t ++ rest = partText u ++ rest' → t = u ∧ rest = rest'

/-- The signs between the parts of a path. -/
def signs : List Char := ['/', '|']

/-- The path of several parts with the sign between them. -/
def joined (sign : Char) (ts : List Term) : Term := if sign = '/' then .sequence ts else .alternative ts

/-- A path is an IRI, an inverse or several parts with a sign between them. -/
private theorem PathShape.cases_joined {t : Term} (h : PathShape t) : (∃ iri, IsIri iri ∧ t = .iri iri) ∨
    (∃ u, PathShape u ∧ t = .inverse u) ∨
      ∃ sign ∈ signs, ∃ u v us, (∀ w ∈ u :: v :: us, PathShape w) ∧ t = joined sign (u :: v :: us) := by
  cases h with
  | iri h => exact .inl ⟨_, h, rfl⟩
  | inverse h => exact .inr (.inl ⟨_, h, rfl⟩)
  | sequence hlength hparts _ =>
    obtain ⟨u, v, us, rfl⟩ := exists_cons_cons hlength
    exact .inr (.inr ⟨'/', by decide, u, v, us, hparts, rfl⟩)
  | alternative hlength hparts _ =>
    obtain ⟨u, v, us, rfl⟩ := exists_cons_cons hlength
    exact .inr (.inr ⟨'|', by decide, u, v, us, hparts, rfl⟩)

section

variable {sign sign' : Char} {u v : Term} {us : List Term}

private theorem isCompound_joined (sign : Char) (u v : Term) (us : List Term) :
    (joined sign (u :: v :: us)).isCompound = true := by
  unfold joined
  split <;> simp [Term.isCompound]

private theorem pathText_joined (hsign : sign ∈ signs) :
    pathText (joined sign (u :: us)) = partText u ++ partsText sign us := by
  simp only [signs, List.mem_cons, List.not_mem_nil, or_false] at hsign
  rcases hsign with rfl | rfl <;> rfl

private theorem partText_joined (hsign : sign ∈ signs) :
    partText (joined sign (u :: v :: us)) = '(' :: (partText u ++ partsText sign (v :: us) ++ [')']) := by
  rw [partText, enclosed, if_pos (isCompound_joined sign u v us), pathText_joined hsign, List.cons_append]

/-- Parts with a sign before each of them are found again, and so is the sign, if the path ends after them or a
parenthesis is closed. -/
theorem partsText_unique (hsign : sign ∈ signs) (hsign' : sign' ∈ signs) {ts us : List Term} {rest rest' : List Char}
    (hts : ∀ t ∈ ts, PartUnique t) (hus : ∀ u ∈ us, PathShape u) (hrest : ∀ c ∈ rest.head?, c = ')')
    (hrest' : ∀ c ∈ rest'.head?, c = ')') (h : partsText sign ts ++ rest = partsText sign' us ++ rest') :
    ts = us ∧ rest = rest' ∧ (ts ≠ [] → sign = sign') := by
  -- where the one has a further part, the other cannot end: a sign is no parenthesis
  have hclose : ∀ c ∈ signs, c ≠ ')' := by decide
  induction ts generalizing us with
  | nil =>
    cases us with
    | nil => exact ⟨rfl, h, fun hne => absurd rfl hne⟩
    | cons u us =>
      have hstart : rest.head? = some sign' := congrArg List.head? h
      exact absurd (hrest _ hstart) (hclose _ hsign')
  | cons t ts ih =>
    cases us with
    | nil =>
      have hstart : rest'.head? = some sign := congrArg List.head? h.symm
      exact absurd (hrest' _ hstart) (hclose _ hsign)
    | cons u us =>
      obtain ⟨ht, hmore⟩ := List.forall_mem_cons.1 hts
      obtain ⟨hu, hmore'⟩ := List.forall_mem_cons.1 hus
      rw [partsText, partsText, List.cons_append, List.cons_append, List.cons_append, List.cons_append,
        List.append_assoc, List.append_assoc] at h
      obtain ⟨hsame, hparts⟩ := List.cons.inj h
      obtain ⟨htu, hlater⟩ := ht hu hparts
      obtain ⟨hus, hrest, -⟩ := ih hmore hmore' hlater
      exact ⟨by rw [htu, hus], hrest, fun _ => hsame⟩

private theorem partUnique_iri {iri : String} (h : IsIri iri) : PartUnique (.iri iri) := by
  have hbracket {iri : String} (h : IsIri iri) : '>' ∉ iri.toList := fun hc => absurd (h _ hc) (by decide)
  intro u rest rest' hu heq
  rcases hu.cases_joined with ⟨iri', h', rfl⟩ | ⟨v, -, rfl⟩ | ⟨sign, hsign, v, w, ws, -, rfl⟩
  · have hchars : iri.toList ++ '>' :: rest = iri'.toList ++ '>' :: rest' := by
      simpa [partText, enclosed, Term.isCompound, pathText] using heq
    obtain ⟨hiri, hrest⟩ := append_cons_unique hchars (.inl ⟨hbracket h, hbracket h'⟩)
    exact ⟨congrArg Term.iri (String.ext_iff.2 hiri), hrest⟩
  · cases heq
  · rw [partText_joined hsign] at heq
    cases heq

private theorem partUnique_inverse (h : PartUnique u) : PartUnique (.inverse u) := by
  intro t rest rest' ht heq
  rcases ht.cases_joined with ⟨iri, -, rfl⟩ | ⟨v, hv, rfl⟩ | ⟨sign, hsign, v, w, ws, -, rfl⟩
  · cases heq
  · obtain ⟨rfl, hrest⟩ := h hv (List.cons.inj heq).2
    exact ⟨rfl, hrest⟩
  · rw [partText_joined hsign] at heq
    cases heq

private theorem partUnique_joined (hsign : sign ∈ signs) (h : ∀ w ∈ u :: v :: us, PartUnique w) :
    PartUnique (joined sign (u :: v :: us)) := by
  intro t rest rest' ht heq
  rw [partText_joined hsign] at heq
  rcases ht.cases_joined with ⟨iri, -, rfl⟩ | ⟨w, -, rfl⟩ | ⟨sign', hsign', u', v', us', hshape, rfl⟩
  · cases heq
  · cases heq
  · obtain ⟨hu, hus⟩ := List.forall_mem_cons.1 h
    obtain ⟨hu', hus'⟩ := List.forall_mem_cons.1 hshape
    rw [partText_joined hsign'] at heq
    have hinside : partText u ++ (partsText sign (v :: us) ++ ')' :: rest) =
        partText u' ++ (partsText sign' (v' :: us') ++ ')' :: rest') := by
      simpa using heq
    obtain ⟨rfl, hmore⟩ := hu hu' hinside
    obtain ⟨hparts, hrest, hsame⟩ := partsText_unique hsign hsign' hus hus' (by simp) (by simp) hmore
    rw [hsame (by simp), hparts]
    exact ⟨rfl, (List.cons.inj hrest).2⟩

end

/-- A part of a path is found again, whatever comes after it. -/
theorem PathShape.partUnique {t : Term} (h : PathShape t) : PartUnique t := by
  induction h with
  | iri h => exact partUnique_iri h
  | inverse _ ih => exact partUnique_inverse ih
  | sequence hlength _ _ ih =>
    obtain ⟨u, v, us, rfl⟩ := exists_cons_cons hlength
    show PartUnique (joined '/' (u :: v :: us))
    exact partUnique_joined (by decide) ih
  | alternative hlength _ _ ih =>
    obtain ⟨u, v, us, rfl⟩ := exists_cons_cons hlength
    show PartUnique (joined '|' (u :: v :: us))
    exact partUnique_joined (by decide) ih

/-! ### Whole paths -/

private theorem partText_of_not_compound {t : Term} (h : t.isCompound = false) : partText t = pathText t := by
  rw [partText, enclosed, if_neg (by simp [h])]

/-- Several parts with signs between them are not written like a single part. -/
private theorem pathText_compound_ne {t u : Term} (ht : PathShape t) (hu : PathShape u)
    (hcompound : t.isCompound = true) (hsingle : u.isCompound = false) : pathText t ≠ pathText u := by
  intro h
  rcases ht.cases_joined with ⟨iri, -, rfl⟩ | ⟨v, -, rfl⟩ | ⟨sign, hsign, v, w, ws, hparts, rfl⟩
  · cases hcompound
  · cases hcompound
  · rw [pathText_joined hsign, ← partText_of_not_compound hsingle, ← List.append_nil (partText u)] at h
    cases ((List.forall_mem_cons.1 hparts).1.partUnique hu h).2

/-- Paths that are written alike are the same. -/
theorem pathText_injective {t u : Term} (ht : PathShape t) (hu : PathShape u) (h : pathText t = pathText u) :
    t = u := by
  have hpart (h : partText t = partText u) : t = u := (ht.partUnique hu (congrArg (· ++ []) h)).1
  cases htc : t.isCompound <;> cases huc : u.isCompound
  case false.false => exact hpart (by rw [partText_of_not_compound htc, partText_of_not_compound huc, h])
  case true.true => exact hpart (by rw [partText, partText, enclosed, enclosed, if_pos htc, if_pos huc, h])
  case true.false => exact absurd h (pathText_compound_ne ht hu htc huc)
  case false.true => exact absurd h.symm (pathText_compound_ne hu ht huc htc)

end PointOfFocus.Query
