import PointOfFocus.Proofs.Query.Totality

/-!
# What tokens cover

Nothing of a text is lost when it is cut into tokens (`tokenize_covers`). The tokens stand in the text one after the
other, each at the characters that it was made from, and around them there are only blanks and comments. A point of
focus covers its hint as well: it begins where the hint does.

The rules for tokens take at least one character and never more than there are (`lexeme?_le`), so the first pass lays
the tokens end to end with gaps between them (`tokensFrom_laid`). The second pass merges a point of focus with the
tokens before it, which keeps the rest where it was (`attachFocus_laid`).
-/

namespace PointOfFocus.Query

open PointOfFocus.Number
open PointOfFocus.Text

/-- The characters of the text from one offset up to another. -/
def slice (text : List Char) (start stop : Nat) : List Char := (text.drop start).take (stop - start)

/-- Between the two offsets there are only blanks and comments. A comment goes on to the end of its line. -/
inductive Gap (text : List Char) : Nat → Nat → Prop where
  | nothing (a : Nat) : Gap text a a
  | blank {a b : Nat} {c : Char} : text[a]? = some c → isBlank c = true → Gap text (a + 1) b → Gap text a b
  | comment {a m b : Nat} : text[a]? = some '#' → a < m → (∀ i, a < i → i < m → text[i]? ≠ some '\n') →
      m = text.length ∨ text[m]? = some '\n' → Gap text m b → Gap text a b

/-- From one offset to another the text has digits for the number, a slash and the marker, with gaps between them. -/
def IsPathText (text : List Char) (start stop : Nat) (length : Nat) : Prop :=
  ∃ digitsEnd slash marker, start < digitsEnd ∧ (∀ c ∈ slice text start digitsEnd, isDigit c = true) ∧
    readInteger (String.ofList (slice text start digitsEnd)) = .ok length ∧ Gap text digitsEnd slash ∧
    text[slash]? = some '/' ∧ Gap text (slash + 1) marker ∧ text[marker]? = some '<' ∧ stop = marker + 1

/-- What the text has between the start and the stop of the token. -/
def Token.Stands (text : List Char) (t : Token) : Prop :=
  match t.kind with
  | .focus .none => slice text t.start t.stop = ['<']
  | .focus (.keyword word) => slice text t.start t.stop = word.toList ++ ['<']
  | .focus (.nameStart label part) => slice text t.start t.stop = label.toList ++ ':' :: part.toList ++ ['<']
  | .focus (.pathLength length) => IsPathText text t.start t.stop length
  | _ => slice text t.start t.stop = t.text.toList

/-- The tokens stand in the text one after the other between the two offsets, with gaps around them. -/
def Laid (text : List Char) : Nat → List Token → Nat → Prop
  | a, [], b => Gap text a b
  | a, t :: ts, b => a ≤ t.start ∧ Gap text a t.start ∧ t.start < t.stop ∧ t.Stands text ∧ Laid text t.stop ts b

/-! ### The lengths of lexemes -/

private theorem length_takeWhile_le (p : Char → Bool) (cs : List Char) : (cs.takeWhile p).length ≤ cs.length :=
  (List.takeWhile_prefix p).length_le

private theorem runLength?_le {run cs : List Char} {n : Nat} (h : runLength? run = some n)
    (hrun : run.length ≤ cs.length) : 0 < n ∧ n ≤ cs.length := by
  unfold runLength? at h
  split at h
  · cases h
  next hne =>
    cases h
    exact ⟨List.length_pos_of_ne_nil (by simpa using hne), hrun⟩

private theorem comment?_le {cs : List Char} {n : Nat} (h : comment? cs = some n) : 0 < n ∧ n ≤ cs.length := by
  unfold comment? at h
  split at h
  next cs =>
    cases h
    have := length_takeWhile_le (· ≠ '\n') cs
    rw [List.length_cons]
    omega
  · cases h

private theorem iri?_le {cs : List Char} {n : Nat} (h : iri? cs = some n) : 0 < n ∧ n ≤ cs.length := by
  unfold iri? at h
  split at h
  next cs =>
    simp only at h
    split at h
    next rest hrest =>
      cases h
      have hdrop := congrArg List.length hrest
      rw [List.length_drop, List.length_cons] at hdrop
      rw [List.length_cons]
      omega
    · cases h
  · cases h

theorem marker?_eq {cs : List Char} {n : Nat} (h : marker? cs = some n) : ∃ rest, cs = '<' :: rest ∧ n = 1 := by
  unfold marker? at h
  split at h
  next rest => exact ⟨rest, rfl, by cases h; rfl⟩
  · cases h

private theorem shortText?_le {mark : Char} {cs : List Char} {n : Nat} (h : shortText? mark cs = some n) :
    n ≤ cs.length := by
  fun_induction shortText? mark cs generalizing n with
  | case1 => cases h
  | case2 => cases h; simp
  | case3 => cases h
  | case4 => cases h
  | case5 _ e rest _ ih =>
    obtain ⟨m, hm, rfl⟩ := Option.map_eq_some_iff.1 h
    have := ih hm
    simp only [List.length_cons]
    omega
  | case6 => cases h
  | case7 c cs _ _ _ ih =>
    obtain ⟨m, hm, rfl⟩ := Option.map_eq_some_iff.1 h
    have := ih hm
    rw [List.length_cons]
    omega

private theorem longText?_le {mark : Char} {cs : List Char} {n : Nat} (h : longText? mark cs = some n) :
    n ≤ cs.length := by
  fun_induction longText? mark cs generalizing n with
  | case1 => cases h
  | case2 c cs hprefix =>
    cases h
    exact (List.isPrefixOf_iff_prefix.1 hprefix).length_le
  | case3 => cases h
  | case4 => cases h
  | case5 _ e rest _ ih =>
    obtain ⟨m, hm, rfl⟩ := Option.map_eq_some_iff.1 h
    have := ih hm
    simp only [List.length_cons]
    omega
  | case6 c cs _ _ ih =>
    obtain ⟨m, hm, rfl⟩ := Option.map_eq_some_iff.1 h
    have := ih hm
    rw [List.length_cons]
    omega

private theorem string?_le {cs : List Char} {n : Nat} (h : string? cs = some n) : 0 < n ∧ n ≤ cs.length := by
  have htriple : ∀ mark n, tripleQuoted? mark cs = some n → 0 < n ∧ n ≤ cs.length := by
    intro mark n hn
    unfold tripleQuoted? at hn
    split at hn
    next hprefix =>
      obtain ⟨m, hm, rfl⟩ := Option.map_eq_some_iff.1 hn
      have hquotes : 3 ≤ cs.length := (List.isPrefixOf_iff_prefix.1 hprefix).length_le
      have hbody := longText?_le hm
      rw [List.length_drop] at hbody
      omega
    · cases hn
  have hsingle : ∀ mark n, singleQuoted? mark cs = some n → 0 < n ∧ n ≤ cs.length := by
    intro mark n hn
    unfold singleQuoted? at hn
    split at hn
    next hprefix =>
      obtain ⟨m, hm, rfl⟩ := Option.map_eq_some_iff.1 hn
      have hquote : 1 ≤ cs.length := (List.isPrefixOf_iff_prefix.1 hprefix).length_le
      have hbody := shortText?_le hm
      rw [List.length_drop] at hbody
      omega
    · cases hn
  simp only [string?, orElse_eq_some] at h
  rcases h with h | ⟨-, h | ⟨-, h | ⟨-, h⟩⟩⟩
  · exact htriple _ _ h
  · exact htriple _ _ h
  · exact hsingle _ _ h
  · exact hsingle _ _ h

private theorem var?_le {cs : List Char} {n : Nat} (h : var? cs = some n) : 0 < n ∧ n ≤ cs.length := by
  unfold var? at h
  split at h
  next c cs =>
    split at h
    · obtain ⟨m, hm, rfl⟩ := Option.map_eq_some_iff.1 h
      have := runLength?_le hm (length_takeWhile_le isVarChar cs)
      rw [List.length_cons]
      omega
    · cases h
  · cases h

private theorem blank?_le {cs : List Char} {n : Nat} (h : blank? cs = some n) : 0 < n ∧ n ≤ cs.length := by
  unfold blank? at h
  split at h
  next c cs =>
    split at h
    · cases h
      have hlabel := (dropDots_isPrefix (cs.takeWhile isLabelChar)).length_le
      have hrun := length_takeWhile_le isLabelChar cs
      simp only [List.length_cons]
      omega
    · cases h
  · cases h

private theorem prefixedName?_eq {cs : List Char} {n : Nat} (h : prefixedName? cs = some n) :
    ∃ label rest, cs = label ++ ':' :: rest ∧ label.length < n ∧ n ≤ cs.length := by
  unfold prefixedName? at h
  simp only at h
  split at h
  next rest hrest =>
    split at h
    · cases h
      have hsplit : cs = cs.takeWhile isLabelChar ++ ':' :: rest := by
        rw [← hrest, drop_takeWhile, List.takeWhile_append_dropWhile]
      have hpart := (localPart_isPrefix rest).length_le
      have hrun := length_takeWhile_le isLocalChar rest
      have hlength := congrArg List.length hsplit
      rw [List.length_append, List.length_cons] at hlength
      exact ⟨cs.takeWhile isLabelChar, rest, hsplit, by omega, by omega⟩
    · cases h
  · cases h

private theorem languageParts_le : ∀ (fuel : Nat) (cs : List Char), languageParts fuel cs ≤ cs.length
  | 0, cs => by simp [languageParts]
  | fuel + 1, cs => by
    unfold languageParts
    split
    next rest =>
      have hpart := length_takeWhile_le Char.isAlphanum rest
      have hrest := languageParts_le fuel (rest.drop (rest.takeWhile Char.isAlphanum).length)
      rw [List.length_drop] at hrest
      rw [List.length_cons]
      simp only
      split <;> omega
    · exact Nat.zero_le _

private theorem language?_le {cs : List Char} {n : Nat} (h : language? cs = some n) : 0 < n ∧ n ≤ cs.length := by
  unfold language? at h
  split at h
  next cs =>
    simp only at h
    split at h
    · cases h
    · cases h
      have hfirst := length_takeWhile_le Char.isAlpha cs
      have hparts := languageParts_le cs.length (cs.drop (cs.takeWhile Char.isAlpha).length)
      rw [List.length_drop] at hparts
      rw [List.length_cons]
      omega
  · cases h

private theorem word?_le {cs : List Char} {n : Nat} (h : word? cs = some n) : 0 < n ∧ n ≤ cs.length := by
  unfold word? at h
  split at h
  next c cs =>
    split at h
    · cases h
      have := length_takeWhile_le (fun c => isWord c || c = '-') cs
      rw [List.length_cons]
      omega
    · cases h
  · cases h

private theorem digitCount_le (cs : List Char) : digitCount cs ≤ cs.length := length_takeWhile_le isDigit cs

private theorem exponentLength?_le {cs : List Char} {n : Nat} (h : exponentLength? cs = some n) : n ≤ cs.length := by
  unfold exponentLength? at h
  split at h
  next c cs =>
    split at h
    · simp only at h
      generalize hsign : (if cs.head? = some '+' || cs.head? = some '-' then 1 else 0) = sign at h
      split at h
      · cases h
      next hdigits =>
        cases h
        have hcount := digitCount_le (cs.drop sign)
        rw [List.length_drop] at hcount
        rw [List.length_cons]
        omega
    · cases h
  · cases h

private theorem mantissa?_le {cs : List Char} {n : Nat} (h : mantissa? cs = some n) : 0 < n ∧ n ≤ cs.length := by
  have hwhole := digitCount_le cs
  unfold mantissa? at h
  simp only at h
  split at h
  next rest hrest =>
    have hlength := congrArg List.length hrest
    rw [List.length_drop, List.length_cons] at hlength
    have hplaces := digitCount_le rest
    split at h
    · cases h
    · cases h
      omega
  · split at h
    · cases h
    · cases h
      omega

private theorem double?_le {cs : List Char} {n : Nat} (h : double? cs = some n) : 0 < n ∧ n ≤ cs.length := by
  obtain ⟨mantissa, hmantissa, h⟩ := Option.bind_eq_some_iff.1 h
  obtain ⟨exponent, hexponent, h⟩ := Option.bind_eq_some_iff.1 h
  cases h
  have hfront := mantissa?_le hmantissa
  have hback := exponentLength?_le hexponent
  rw [List.length_drop] at hback
  omega

private theorem decimal?_le {cs : List Char} {n : Nat} (h : decimal? cs = some n) : 0 < n ∧ n ≤ cs.length := by
  have hwhole := digitCount_le cs
  unfold decimal? at h
  simp only at h
  split at h
  next rest hrest =>
    have hlength := congrArg List.length hrest
    rw [List.length_drop, List.length_cons] at hlength
    have hplaces := digitCount_le rest
    split at h
    · cases h
    · cases h
      omega
  · cases h

private theorem datatypeMark?_le {cs : List Char} {n : Nat} (h : datatypeMark? cs = some n) :
    0 < n ∧ n ≤ cs.length := by
  unfold datatypeMark? at h
  split at h
  next hprefix =>
    cases h
    exact ⟨by omega, (List.isPrefixOf_iff_prefix.1 hprefix).length_le⟩
  · cases h

private theorem symbol?_le {cs : List Char} {x : Symbol} (h : symbol? cs = some x) :
    0 < x.text.length ∧ x.text.length ≤ cs.length := by
  unfold symbol? at h
  have hfound := List.find?_some h
  have hprefix := List.isPrefixOf_iff_prefix.1 hfound
  have hpos : 0 < x.text.length := by cases x <;> decide
  have hlength := hprefix.length_le
  rw [String.length_toList] at hlength
  exact ⟨hpos, hlength⟩

/-- A lexeme is not empty and no longer than the text. -/
theorem lexeme?_le {cs : List Char} {lexeme : Lexeme} {n : Nat} (h : lexeme? cs = some (lexeme, n)) :
    0 < n ∧ n ≤ cs.length := by
  simp only [lexeme?, orElse_eq_some, Option.map_eq_some_iff, Prod.mk.injEq] at h
  rcases h with ⟨_, h, -, rfl⟩ | ⟨-, ⟨_, h, -, rfl⟩ | ⟨-, ⟨_, h, -, rfl⟩ | ⟨-, ⟨_, h, -, rfl⟩ | ⟨-, ⟨_, h, -, rfl⟩ |
    ⟨-, ⟨_, h, -, rfl⟩ | ⟨-, ⟨_, h, -, rfl⟩ | ⟨-, ⟨_, h, -, rfl⟩ | ⟨-, ⟨_, h, -, rfl⟩ | ⟨-, ⟨_, h, -, rfl⟩ |
    ⟨-, ⟨_, h, -, rfl⟩ | ⟨-, ⟨_, h, -, rfl⟩ | ⟨-, ⟨_, h, -, rfl⟩ | ⟨-, ⟨_, h, -, rfl⟩ |
    ⟨-, ⟨_, h, -, rfl⟩⟩⟩⟩⟩⟩⟩⟩⟩⟩⟩⟩⟩⟩⟩
  · exact runLength?_le h (length_takeWhile_le _ _)
  · exact comment?_le h
  · exact iri?_le h
  · obtain ⟨rest, rfl, rfl⟩ := marker?_eq h
    simp
  · exact string?_le h
  · exact var?_le h
  · exact blank?_le h
  · obtain ⟨label, rest, -, hlabel, hle⟩ := prefixedName?_eq h
    omega
  · exact language?_le h
  · exact double?_le h
  · exact decimal?_le h
  · exact runLength?_le h (length_takeWhile_le _ _)
  · exact word?_le h
  · exact datatypeMark?_le h
  · exact symbol?_le h

/-! ### Slices and gaps -/

section

variable {text : List Char} {a b m : Nat}

private theorem slice_append (hab : a ≤ m) (hbc : m ≤ b) : slice text a m ++ slice text m b = slice text a b := by
  have hwidth : b - a = (m - a) + (b - m) := by omega
  have hdrop : text.drop m = (text.drop a).drop (m - a) := by rw [List.drop_drop, Nat.add_sub_cancel' hab]
  rw [slice, slice, slice, hwidth, List.take_add, hdrop]

private theorem slice_add (n : Nat) :
    slice text a (a + n) = (text.drop a).take n := by rw [slice, Nat.add_sub_cancel_left]

private theorem slice_eq_singleton {c : Char} (hb : b ≤ text.length) (h : slice text a b = [c]) :
    text[a]? = some c ∧ b = a + 1 := by
  have hlength := congrArg List.length h
  rw [slice, List.length_take, List.length_drop, List.length_singleton] at hlength
  have hfirst : (slice text a b)[0]? = some c := by rw [h]; rfl
  rw [slice, List.getElem?_take_of_lt (by omega), List.getElem?_drop, Nat.add_zero] at hfirst
  exact ⟨hfirst, by omega⟩

private theorem Gap.le (h : Gap text a b) : a ≤ b := by
  induction h with
  | nothing => exact Nat.le_refl _
  | blank _ _ _ ih => omega
  | comment _ hlt _ _ _ ih => omega

private theorem Gap.trans (h : Gap text a m) (h' : Gap text m b) : Gap text a b := by
  induction h with
  | nothing => exact h'
  | blank hc hblank _ ih => exact .blank hc hblank (ih h')
  | comment hc hlt hline hend _ ih => exact .comment hc hlt hline hend (ih h')

private theorem gap_of_forall {n : Nat} (h : ∀ i < n, ∃ c, text[a + i]? = some c ∧ isBlank c = true) :
    Gap text a (a + n) := by
  induction n generalizing a with
  | zero => exact .nothing a
  | succ n ih =>
    obtain ⟨c, hc, hblank⟩ := h 0 (by omega)
    have hrest : Gap text (a + 1) (a + 1 + n) := by
      refine ih fun i hi => ?_
      obtain ⟨d, hd, hdblank⟩ := h (i + 1) (by omega)
      exact ⟨d, by rw [← hd]; congr 1; omega, hdblank⟩
    have hend : a + (n + 1) = a + 1 + n := by omega
    rw [hend]
    exact .blank hc hblank hrest

/-- Blanks at an offset are a gap. -/
private theorem blanks?_gap {n : Nat} (h : blanks? (text.drop a) = some n) : Gap text a (a + n) := by
  unfold blanks? runLength? at h
  split at h
  · cases h
  · cases h
    generalize hrun : (text.drop a).takeWhile isBlank = run
    have hsplit : text.drop a = run ++ (text.drop a).dropWhile isBlank := by
      rw [← hrun, List.takeWhile_append_dropWhile]
    refine gap_of_forall fun i hi => ?_
    have hget : text[a + i]? = some run[i] := by
      rw [← List.getElem?_drop, hsplit, List.getElem?_append_left hi, List.getElem?_eq_getElem hi]
    have hmem : run[i] ∈ (text.drop a).takeWhile isBlank := hrun ▸ List.getElem_mem hi
    exact ⟨run[i], hget, List.mem_takeWhile_imp hmem⟩

/-- A comment at an offset is a gap. -/
private theorem comment?_gap {n : Nat} (h : comment? (text.drop a) = some n) : Gap text a (a + n) := by
  unfold comment? at h
  split at h
  next cs hcs =>
    cases h
    generalize hrun : cs.takeWhile (· ≠ '\n') = run
    generalize hrest : cs.dropWhile (· ≠ '\n') = rest
    have hsplit : text.drop a = '#' :: (run ++ rest) := by
      rw [hcs, ← hrun, ← hrest, List.takeWhile_append_dropWhile]
    have hafter : ∀ i, text[a + (i + 1)]? = (run ++ rest)[i]? := by
      intro i
      rw [← List.getElem?_drop, hsplit, List.getElem?_cons_succ]
    have hfirst : text[a]? = some '#' := by
      rw [← Nat.add_zero a, ← List.getElem?_drop, hsplit]
      rfl
    -- A comment ends at the first line end after its mark, or with the text.
    refine .comment hfirst (by omega) ?_ ?_ (.nothing _)
    · intro i hi hlt hnewline
      obtain ⟨j, rfl⟩ : ∃ j, i = a + (j + 1) := ⟨i - (a + 1), by omega⟩
      have hj : j < run.length := by omega
      rw [hafter, List.getElem?_append_left hj, List.getElem?_eq_getElem hj] at hnewline
      have hmem : run[j] ∈ cs.takeWhile (· ≠ '\n') := hrun ▸ List.getElem_mem hj
      have hne := List.mem_takeWhile_imp hmem
      simp [Option.some.inj hnewline] at hne
    · cases rest with
      | nil =>
        have hlength := congrArg List.length hsplit
        rw [List.length_drop, List.append_nil, List.length_cons] at hlength
        exact .inl (by omega)
      | cons d rest =>
        have hd := List.head?_dropWhile_not (· ≠ '\n') cs
        rw [hrest] at hd
        refine .inr ?_
        rw [hafter, List.getElem?_append_right (Nat.le_refl _), Nat.sub_self]
        simpa using hd
  · cases h

end

/-! ### Tokens in their places -/

section

variable {text : List Char} {a b m : Nat} {ts : List Token}

/-- Tokens that are laid out from one offset to another leave the second behind the first. -/
theorem Laid.le (h : Laid text a ts b) : a ≤ b := by
  induction ts generalizing a with
  | nil => exact Gap.le h
  | cons t ts ih =>
    obtain ⟨hle, -, hlt, -, hrest⟩ := h
    have := ih hrest
    omega

private theorem Laid.after_gap (h : Laid text m ts b) (hgap : Gap text a m) : Laid text a ts b := by
  cases ts with
  | nil => exact hgap.trans h
  | cons t ts =>
    obtain ⟨hle, hfront, hrest⟩ := h
    exact ⟨Nat.le_trans hgap.le hle, hgap.trans hfront, hrest⟩

private theorem laid_append {us : List Token} :
    Laid text a (ts ++ us) b ↔ ∃ m, Laid text a ts m ∧ Laid text m us b := by
  induction ts generalizing a with
  | nil =>
    constructor
    · intro h
      exact ⟨a, .nothing a, h⟩
    · rintro ⟨m, hgap, h⟩
      exact h.after_gap hgap
  | cons t ts ih =>
    constructor
    · rintro ⟨hle, hgap, hlt, hstands, hrest⟩
      obtain ⟨m, hts, hus⟩ := ih.1 hrest
      exact ⟨m, ⟨hle, hgap, hlt, hstands, hts⟩, hus⟩
    · rintro ⟨m, ⟨hle, hgap, hlt, hstands, hts⟩, hus⟩
      exact ⟨hle, hgap, hlt, hstands, ih.2 ⟨m, hts, hus⟩⟩

private theorem Laid.stop_le (h : Laid text a ts b) : ∀ t ∈ ts, t.stop ≤ b := by
  induction ts generalizing a with
  | nil => simp
  | cons t ts ih =>
    obtain ⟨-, -, -, -, hrest⟩ := h
    exact List.forall_mem_cons.2 ⟨hrest.le, ih hrest⟩

/-! ### The first pass -/

/-- A gap is a run of blanks or a comment. -/
theorem lexeme?_gap {cs : List Char} {n : Nat} (h : lexeme? cs = some (.gap, n)) :
    blanks? cs = some n ∨ comment? cs = some n := by
  simp only [lexeme?, orElse_eq_some, Option.map_eq_some_iff, Prod.mk.injEq, reduceCtorEq, false_and, and_false,
    exists_false, or_false, true_and] at h
  rcases h with ⟨_, h, rfl⟩ | ⟨-, _, h, rfl⟩
  · exact .inl h
  · exact .inr h

/-- A token as it is cut out of a text: no hint has been attached, and a name has its colon. -/
def Token.IsCut (t : Token) : Prop :=
  match t.kind with
  | .focus hint => hint = .none ∧ t.text = "<"
  | .prefixedName => ':' ∈ t.text.toList
  | .eof => False
  | _ => True

theorem lexeme?_isCut {cs : List Char} {kind : Kind} {n : Nat} (h : lexeme? cs = some (.token kind, n))
    (start stop : Nat) : Token.IsCut ⟨kind, String.ofList (cs.take n), start, stop⟩ := by
  cases kind with
  | focus hint =>
    have hrule : marker? cs = some n ∧ hint = .none := by
      simp [lexeme?] at h
      simp [h]
    obtain ⟨rest, rfl, rfl⟩ := marker?_eq hrule.1
    exact ⟨hrule.2, rfl⟩
  | prefixedName =>
    have hrule : prefixedName? cs = some n := by
      simp [lexeme?] at h
      simp [h]
    obtain ⟨label, rest, rfl, hlabel, -⟩ := prefixedName?_eq hrule
    obtain ⟨k, rfl⟩ : ∃ k, n = label.length + (k + 1) := ⟨n - (label.length + 1), by omega⟩
    simp [Token.IsCut, List.take_length_add_append]
  | eof => simp [lexeme?] at h
  | _ => trivial

private theorem Token.IsCut.stands {t : Token} (h : t.IsCut) (hslice : slice text t.start t.stop = t.text.toList) :
    t.Stands text := by
  unfold Token.IsCut at h
  unfold Token.Stands
  cases hkind : t.kind with
  | focus hint =>
    rw [hkind] at h
    obtain ⟨rfl, htext⟩ := h
    simpa [htext] using hslice
  | _ => exact hslice

theorem drop_succ {offset : Nat} {c : Char} {cs : List Char} (h : text.drop offset = c :: cs) :
    text.drop (offset + 1) = cs ∧ offset + 1 ≤ text.length := by
  have hlength := congrArg List.length h
  rw [List.length_drop, List.length_cons] at hlength
  exact ⟨by rw [← List.drop_drop, h]; rfl, by omega⟩

/-- The tokens that are cut out of a text lie in it one after the other. -/
theorem tokensFrom_laid {skip offset : Nat} {cs : List Char} (h : tokensFrom skip offset cs = .ok ts)
    (hcs : text.drop offset = cs) (hoffset : offset ≤ text.length) (hskip : skip ≤ cs.length) :
    Laid text (offset + skip) ts text.length := by
  fun_induction tokensFrom skip offset cs generalizing ts with
  | case1 skip offset =>
    cases h
    have hend : offset + skip = text.length := by
      have := List.drop_eq_nil_iff.1 hcs
      rw [List.length_nil] at hskip
      omega
    rw [hend]
    exact .nothing _
  | case2 skip offset c cs ih =>
    obtain ⟨hrest, hnext⟩ := drop_succ hcs
    have hlaid := ih h hrest hnext (by simpa using hskip)
    rwa [Nat.add_right_comm, Nat.add_assoc] at hlaid
  | case3 => cases h
  | case4 offset c cs length hfound ih =>
    obtain ⟨hrest, hnext⟩ := drop_succ hcs
    obtain ⟨hpos, hlength⟩ := lexeme?_le hfound
    rw [List.length_cons] at hlength
    have hlaid := ih h hrest hnext (by omega)
    have hstop : offset + 1 + (length - 1) = offset + length := by omega
    rw [hstop] at hlaid
    rw [← hcs] at hfound
    exact hlaid.after_gap ((lexeme?_gap hfound).elim blanks?_gap comment?_gap)
  | case5 offset c cs kind length hfound ih =>
    obtain ⟨hrest, hnext⟩ := drop_succ hcs
    obtain ⟨hpos, hlength⟩ := lexeme?_le hfound
    rw [List.length_cons] at hlength
    cases hothers : tokensFrom (length - 1) (offset + 1) cs with
    | error e => rw [hothers] at h; cases h
    | ok others =>
      rw [hothers] at h
      cases h
      have hlaid := ih hothers hrest hnext (by omega)
      have hstop : offset + 1 + (length - 1) = offset + length := by omega
      rw [hstop] at hlaid
      have hslice : slice text offset (offset + length) = (String.ofList ((c :: cs).take length)).toList := by
        rw [slice_add, hcs, String.toList_ofList]
      have hstands := (lexeme?_isCut hfound offset (offset + length)).stands hslice
      exact ⟨Nat.le_refl _, .nothing _, Nat.lt_add_of_pos_right hpos, hstands, hlaid⟩

/-! ### The second pass -/

/-- A token that is written as its kind says. -/
structure Token.IsWritten (t : Token) : Prop where
  spelled : t.IsSpelled
  colon : t.kind = .prefixedName → ':' ∈ t.text.toList
  inside : t.kind ≠ .eof

private theorem Token.isWritten_withHint (t : Token) (hint : Hint) (source : Token) :
    (t.withHint hint source).IsWritten :=
  ⟨trivial, nofun, nofun⟩

private theorem splitName_text {name : String} (h : ':' ∈ name.toList) :
    (splitName name).1.toList ++ ':' :: (splitName name).2.toList = name.toList := by
  have hsplit := List.takeWhile_append_dropWhile (p := (· ≠ ':')) (l := name.toList)
  have hhead := List.head?_dropWhile_not (· ≠ ':') name.toList
  rw [splitName, String.toList_ofList, String.toList_ofList, ← List.drop_drop, drop_takeWhile]
  cases hrest : name.toList.dropWhile (· ≠ ':') with
  | nil =>
    have hall := List.dropWhile_eq_nil_iff.1 hrest ':' h
    simp at hall
  | cons c rest =>
    rw [hrest] at hsplit hhead
    have hc : c = ':' := by simpa using hhead
    subst hc
    exact hsplit

private theorem Laid.replace {before us : List Token} (h : Laid text a (before ++ ts) b)
    (hts : ∀ m, Laid text m ts b → Laid text m us b) : Laid text a (before ++ us) b := by
  obtain ⟨m, hbefore, hrest⟩ := laid_append.1 h
  exact laid_append.2 ⟨m, hbefore, hts m hrest⟩

/-- A point of focus covers the token that it touches and takes up as its hint. -/
private theorem Laid.touch {previous t : Token} {hint : Hint} (h : Laid text a [previous, t] b)
    (htouch : previous.stop = t.start) (ht : t.kind = .focus .none)
    (hprevious : ∀ hint, previous.kind ≠ .focus hint) (hhint : ∀ start stop,
      slice text start stop = previous.text.toList ++ ['<'] → Token.Stands text ⟨.focus hint, t.text, start, stop⟩) :
    Laid text a [t.withHint hint previous] b := by
  obtain ⟨hle, hgap, hlt, hstands, -, -, hlt', hstands', hend⟩ := h
  have hbefore : slice text previous.start previous.stop = previous.text.toList := by
    unfold Token.Stands at hstands
    cases hkind : previous.kind with
    | focus hint => exact absurd hkind (hprevious hint)
    | _ => rwa [hkind] at hstands
  have hmarker : slice text previous.stop t.stop = ['<'] := by
    rw [Token.Stands, ht] at hstands'
    rwa [htouch]
  rw [← htouch] at hlt'
  have hwhole : slice text previous.start t.stop = previous.text.toList ++ ['<'] := by
    rw [← slice_append (Nat.le_of_lt hlt) (Nat.le_of_lt hlt'), hbefore, hmarker]
  exact ⟨hle, hgap, Nat.lt_trans hlt hlt', hhint _ _ hwhole, hend⟩

private theorem touching_laid {t previous : Token} {rest : List Token} (ht : t.kind = .focus .none)
    (hprevious : previous.IsWritten) (h : Laid text a (rest.reverse ++ [previous, t]) b) :
    Laid text a (attachFocus.touching t previous rest).reverse b := by
  have hapart : Laid text a (t :: previous :: rest).reverse b := by simpa using h
  unfold attachFocus.touching
  split
  next htouch =>
    have hhint : ∀ hint, (∀ hint, previous.kind ≠ .focus hint) → (∀ start stop,
        slice text start stop = previous.text.toList ++ ['<'] → Token.Stands text ⟨.focus hint, t.text, start, stop⟩) →
        Laid text a (t.withHint hint previous :: rest).reverse b := by
      intro hint hkind hstands
      rw [List.reverse_cons]
      exact h.replace fun m hm => hm.touch htouch ht hkind hstands
    split
    next hkind =>
      refine hhint _ (by simp [hkind]) fun start stop hslice => ?_
      rw [← splitName_text (hprevious.colon hkind)] at hslice
      exact hslice
    next hkind => exact hhint _ (by simp [hkind]) fun start stop hslice => hslice
    next hkind => exact hhint _ (by simp [hkind]) fun start stop hslice => hslice
    next hkind => exact hhint _ (by simp [hkind]) fun start stop hslice => hslice
    · exact hapart
  · exact hapart

/-- A point of focus covers the number and the slash that it takes up as the length of a path. -/
private theorem Laid.path {number slash t : Token} {length : Int} (h : Laid text a [number, slash, t] b)
    (hb : b ≤ text.length) (hnumber : number.kind = .integer) (hslash : slash.kind = .symbol .slash)
    (ht : t.kind = .focus .none) (hdigits : number.IsSpelled) (hspelled : slash.IsSpelled)
    (hlength : readInteger number.text = .ok length) :
    Laid text a [t.withHint (.pathLength length.toNat) number] b := by
  -- the three tokens lie behind each other with gaps between them, and become one
  obtain ⟨hle, hgap, hlt, hstands, hle₁, hgap₁, hlt₁, hstands₁, hle₂, hgap₂, hlt₂, hstands₂, hend⟩ := h
  have hstop : t.stop ≤ text.length := Nat.le_trans (Gap.le hend) hb
  rw [Token.IsSpelled, hnumber] at hdigits
  rw [Token.IsSpelled, hslash] at hspelled
  have hnumberText : slice text number.start number.stop = number.text.toList := by
    rwa [Token.Stands, hnumber] at hstands
  have hslashText : slice text slash.start slash.stop = ['/'] := by
    rw [Token.Stands, hslash, hspelled] at hstands₁
    exact hstands₁
  have hmarkerText : slice text t.start t.stop = ['<'] := by
    rwa [Token.Stands, ht] at hstands₂
  obtain ⟨hslashAt, hslashStop⟩ := slice_eq_singleton (by omega) hslashText
  obtain ⟨hmarkerAt, hmarkerStop⟩ := slice_eq_singleton hstop hmarkerText
  have hvalue : (length.toNat : Int) = length := by
    rw [readInteger_of_forall hdigits.1 hdigits.2] at hlength
    split at hlength
    · cases hlength
    · cases hlength
      rfl
  have hpath : IsPathText text number.start t.stop length.toNat := by
    refine ⟨number.stop, slash.start, t.start, hlt, ?_, ?_, hgap₁, hslashAt, ?_, hmarkerAt, hmarkerStop⟩
    · rw [hnumberText]
      exact hdigits.2
    · rw [hnumberText, String.ofList_toList, hlength, hvalue]
    · rwa [← hslashStop]
  exact ⟨hle, hgap, by show number.start < t.stop; omega, hpath, hend⟩

private theorem attachFocus_laid {t : Token} {seen after : List Token} (h : attachFocus t seen = .ok after)
    (ht : t.kind = .focus .none) (hseen : ∀ u ∈ seen, u.IsWritten) (hb : b ≤ text.length)
    (hlaid : Laid text a (seen.reverse ++ [t]) b) : Laid text a after.reverse b := by
  unfold attachFocus at h
  split at h
  · cases h
    exact hlaid
  next previous =>
    cases h
    exact touching_laid ht (hseen previous (by simp)) hlaid
  next previous before rest =>
    rw [List.reverse_cons, List.append_assoc] at hlaid
    have hprevious := hseen previous (by simp)
    split at h
    next hkinds =>
      simp only [Bool.and_eq_true, decide_eq_true_eq] at hkinds
      split at h
      next length hlength =>
        cases h
        have hbefore := hseen before (by simp)
        rw [List.reverse_cons, List.append_assoc] at hlaid
        rw [List.reverse_cons]
        exact hlaid.replace fun m hm =>
          hm.path hb hkinds.2 hkinds.1 ht hbefore.spelled hprevious.spelled hlength
      · cases h
    · cases h
      exact touching_laid ht hprevious hlaid

/-- Hints do not move the tokens. -/
theorem attachHints_laid {seen after : List Token} (h : attachHints seen ts = .ok after)
    (hseen : ∀ t ∈ seen, t.IsWritten) (hts : ∀ t ∈ ts, t.IsWritten ∧ t.IsCut)
    (hlaid : Laid text 0 (seen.reverse ++ ts) text.length) :
    (∀ t ∈ after, t.IsWritten) ∧ Laid text 0 after text.length := by
  induction ts generalizing seen with
  | nil =>
    cases h
    rw [List.append_nil] at hlaid
    exact ⟨by simpa using hseen, hlaid⟩
  | cons t ts ih =>
    obtain ⟨⟨hwritten, hcut⟩, hts⟩ := List.forall_mem_cons.1 hts
    have hsplit : seen.reverse ++ t :: ts = (seen.reverse ++ [t]) ++ ts := by simp
    rw [hsplit] at hlaid
    unfold attachHints at h
    split at h
    next hfocus =>
      have hkind : t.kind = .focus .none := by
        unfold Token.isFocus at hfocus
        split at hfocus
        next hint hkind =>
          rw [Token.IsCut, hkind] at hcut
          rw [hkind, hcut.1]
        · cases hfocus
      cases hattach : attachFocus t seen with
      | error e => rw [hattach] at h; cases h
      | ok next =>
        rw [hattach] at h
        -- only what was seen up to the point of focus changes, and it is laid out over the same stretch
        obtain ⟨m, hfront, hrest⟩ := laid_append.1 hlaid
        have hnext := attachFocus_laid hattach hkind hseen hrest.le hfront
        refine ih h ?_ hts (laid_append.2 ⟨m, hnext, hrest⟩)
        exact attachFocus_forall hattach (t.isWritten_withHint · ·) hwritten hseen
    · refine ih h (List.forall_mem_cons.2 ⟨hwritten, hseen⟩) hts ?_
      rwa [List.reverse_cons]

end

/-- A token that is cut from the text is written as its kind is. -/
theorem lexeme?_isWritten {cs : List Char} {kind : Kind} {n start stop : Nat}
    (h : lexeme? cs = some (.token kind, n)) : Token.IsWritten ⟨kind, String.ofList (cs.take n), start, stop⟩ := by
  have hcut := lexeme?_isCut h start stop
  refine ⟨lexeme?_spelled h, ?_, ?_⟩
  · rintro rfl
    exact hcut
  · rintro rfl
    exact hcut

/-- The tokens of a text end with the one for its end. The others lie in the text in their order: each begins no
earlier than the one before it ends, takes at least one character, and has the characters that its kind and its hint
say. Before, between and after them there are only blanks and comments. -/
theorem tokenize_covers {text : List Char} {ts : List Token} (h : tokenize text = .ok ts) :
    ∃ before, ts = before ++ [.eof text.length] ∧ (∀ t ∈ before, t.kind ≠ .eof ∧ t.stop ≤ text.length) ∧
      Laid text 0 before text.length := by
  cases htokens : tokens text with
  | error e =>
    rw [tokenize, htokens] at h
    cases h
  | ok before =>
    rw [tokenize, htokens] at h
    cases h
    unfold tokens at htokens
    cases hfrom : tokensFrom 0 0 text with
    | error e =>
      rw [hfrom] at htokens
      cases htokens
    | ok cut =>
      rw [hfrom] at htokens
      have hcut : ∀ t ∈ cut, t.IsWritten ∧ t.IsCut :=
        tokensFrom_forall (P := fun t => t.IsWritten ∧ t.IsCut)
          (fun hfound => ⟨lexeme?_isWritten hfound, lexeme?_isCut hfound _ _⟩) hfrom
      have hraw : Laid text 0 cut text.length := tokensFrom_laid hfrom rfl (Nat.zero_le _) (Nat.zero_le _)
      obtain ⟨hwritten, hlaid⟩ := attachHints_laid htokens (by simp) hcut hraw
      exact ⟨before, rfl, fun t ht => ⟨(hwritten t ht).inside, hlaid.stop_le t ht⟩, hlaid⟩

/-- A path with a comment in it, and a name and a word before their markers. -/
theorem tokenize_covers_hints : ∃ before,
    tokenize "?s 12 #c\n/ < a:b< c< ".toList = .ok (before ++ [.eof 21]) ∧
      before.map (·.kind) = [.var, .focus (.pathLength 12), .focus (.nameStart "a" "b"), .focus (.keyword "c")] ∧
      Laid "?s 12 #c\n/ < a:b< c< ".toList 0 before 21 := by
  have hread : tokenize "?s 12 #c\n/ < a:b< c< ".toList = .ok
      ([⟨.var, "?s", 0, 2⟩, ⟨.focus (.pathLength 12), "<", 3, 12⟩, ⟨.focus (.nameStart "a" "b"), "<", 13, 17⟩,
        ⟨.focus (.keyword "c"), "<", 18, 20⟩] ++ [.eof 21]) := by decide +kernel
  obtain ⟨before, hbefore, -, hlaid⟩ := tokenize_covers hread
  have hsame := List.append_inj_left' hbefore rfl
  exact ⟨_, hread, rfl, hsame ▸ hlaid⟩

end PointOfFocus.Query
