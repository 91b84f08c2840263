import PointOfFocus.Proofs.Text.Escape
import PointOfFocus.Rdf.Literal

/-!
# Texts over several lines

A text with a line end is written between three quotes. `LongWritten` says which characters may stand there for a text.
What is written for a text has this form with one exception (`longBody_written`): the quote at the end of the text gets a
backslash unless there is one before it; but where the text itself has a backslash there, that one is written twice and
stands for itself. So the quote counts as the first of the closing ones, and the last of these is left over
(`longBody_leftover`).
-/

namespace PointOfFocus.Rdf

open PointOfFocus.Text

/-- The second text may stand between three quotes for the first one: its quotes are written with a backslash, or they
are at most two in a row and not at its end. -/
inductive LongWritten : List Char → List Char → Prop where
  | nil : LongWritten [] []
  | escaped {e : Char} {cs body : List Char} (he : e ∈ ['\\', '"', 'r']) (h : LongWritten cs body) :
      LongWritten (namedEscape e :: cs) ('\\' :: e :: body)
  | plain {c : Char} {cs body : List Char} (hback : c ≠ '\\') (hquote : c ≠ '"') (h : LongWritten cs body) :
      LongWritten (c :: cs) (c :: body)
  | quote {d : Char} {cs body : List Char} (hnext : ¬ ['"', '"'] <+: d :: body) (h : LongWritten cs (d :: body)) :
      LongWritten ('"' :: cs) ('"' :: d :: body)

theorem LongWritten.unescape_append {cs body : List Char} (h : LongWritten cs body) (more : List Char) :
    unescape (body ++ more) = (unescape more).map (cs ++ ·) := by
  unfold Text.unescape
  have hmap (c : Char) (cs : List Char) : (do return c :: (← (unescapeFrom 0 more).map (cs ++ ·))) =
      (unescapeFrom 0 more).map (c :: cs ++ ·) := by
    cases unescapeFrom 0 more <;> rfl
  induction h with
  | nil => cases h : unescapeFrom 0 more <;> simp [h, Except.map]
  | @escaped e cs body he _ ih =>
    have hnumber : numericEscape? (e :: (body ++ more)) = none := by
      simp only [List.mem_cons, List.not_mem_nil, or_false] at he
      rcases he with rfl | rfl | rfl <;> rfl
    rw [List.cons_append, List.cons_append, unescapeFrom_escaped hnumber, ih, hmap]
  | plain hback _ _ ih => rw [List.cons_append, unescapeFrom_plain hback, ih, hmap]
  | quote _ _ ih => rw [List.cons_append, unescapeFrom_plain (by decide), ih, hmap]

/-- The body of a text between three quotation marks is unescaped to the text. -/
theorem LongWritten.unescape {cs body : List Char} (h : LongWritten cs body) : unescape body = .ok cs := by
  have happend := h.unescape_append []
  rw [List.append_nil] at happend
  rw [happend]
  exact congrArg Except.ok (List.append_nil cs)

/-- The characters between three quotes. -/
def longQuoted (body : List Char) : List Char := '"' :: '"' :: '"' :: body ++ ['"', '"', '"']

/-! ### The characters between the quotes -/

private theorem longBody_plain {c : Char} (hback : c ≠ '\\') (hreturn : c ≠ '\r') {cs : List Char}
    (hquotes : ¬ ['"', '"', '"'] <+: c :: cs) : longBody (c :: cs) = c :: longBody cs := by
  rw [longBody.eq_def]
  split
  next heq => exact absurd (by rw [heq]; simp) hquotes
  next heq => exact absurd (List.cons.inj heq).1 hback
  next heq => exact absurd (List.cons.inj heq).1 hreturn
  next heq => cases heq; rfl
  next heq => cases heq

private theorem longBody_eq_nil {cs : List Char} (h : longBody cs = []) : cs = [] := by
  unfold longBody at h
  split at h <;> first | rfl | cases h

/-- A quote at the start of what is written is that of the text. -/
private theorem quote_of_longBody {cs body : List Char} (h : longBody cs = '"' :: body) :
    ∃ ds, cs = '"' :: ds ∧ body = longBody ds := by
  unfold longBody at h
  split at h
  · cases h
  · cases h
  · cases h
  · cases h
    exact ⟨_, rfl, rfl⟩
  · cases h

private theorem protectLast_concat {c : Char} (h : c ≠ '"') (cs : List Char) : protectLast (cs ++ [c]) = cs ++ [c] := by
  rw [protectLast, List.reverse_append, List.reverse_singleton, List.singleton_append]
  split
  next heq => exact absurd (List.cons.inj heq).1 h
  next heq => exact absurd (List.cons.inj heq).1 h
  · rfl

private theorem protectLast_guarded (cs : List Char) : protectLast (cs ++ ['\\', '"']) = cs ++ ['\\', '"'] := by
  simp [protectLast]

private theorem protectLast_bare {cs : List Char} (h : cs.getLast? ≠ some '\\') :
    protectLast (cs ++ ['"']) = cs ++ ['\\', '"'] := by
  rw [protectLast, List.reverse_append, List.reverse_singleton, List.singleton_append]
  split
  next heq =>
    rw [List.getLast?_eq_head?_reverse, (List.cons.inj heq).2] at h
    exact absurd rfl h
  next heq => simp [← (List.cons.inj heq).2]
  next hother => exact absurd rfl (hother _)

/-- What comes before the last two characters does not matter. -/
private theorem protectLast_cons_cons {c d : Char} {cs : List Char} (h : ¬ (c = '\\' ∧ d = '"' ∧ cs = [])) :
    protectLast (c :: d :: cs) = c :: protectLast (d :: cs) := by
  obtain ⟨run, e, hrun⟩ := List.eq_nil_or_concat (d :: cs) |>.resolve_left (by simp)
  rw [List.concat_eq_append] at hrun
  rw [hrun, ← List.cons_append]
  by_cases he : e = '"'
  · subst he
    rcases List.eq_nil_or_concat run with rfl | ⟨run, f, rfl⟩
    · cases hrun
      have hc : c ≠ '\\' := fun hc => h ⟨hc, rfl, rfl⟩
      rw [protectLast_bare (by simpa using hc), protectLast_bare (by simp)]
      rfl
    · by_cases hf : f = '\\'
      · subst hf
        simp only [List.concat_eq_append, ← List.cons_append, List.append_assoc, List.singleton_append]
        rw [protectLast_guarded, protectLast_guarded, List.cons_append]
      · have hlast : (run.concat f).getLast? ≠ some '\\' := by simpa using hf
        have hlonger : (c :: run.concat f).getLast? ≠ some '\\' := by simpa [List.getLast?_cons] using hf
        rw [protectLast_bare hlast, protectLast_bare hlonger]
        rfl
  · rw [protectLast_concat he, protectLast_concat he]
    rfl

private theorem protectLast_singleton (c : Char) : protectLast [c] = if c = '"' then ['\\', '"'] else [c] := by
  split
  next h => rw [h]; rfl
  next h => exact protectLast_concat h []

private theorem protectLast_cons {c : Char} (hc : c ≠ '\\') {cs : List Char} (hcs : cs ≠ []) :
    protectLast (c :: cs) = c :: protectLast cs := by
  obtain ⟨d, cs, rfl⟩ := List.exists_cons_of_ne_nil hcs
  exact protectLast_cons_cons fun h => hc h.1

private theorem protectLast_eq_nil {cs : List Char} (h : protectLast cs = []) : cs = [] := by
  unfold protectLast at h
  split at h
  · exact h
  · exact absurd h (by simp)
  · exact h

/-- A quote at the start is not the last character. -/
private theorem quote_of_protectLast {cs body : List Char} (h : protectLast cs = '"' :: body) :
    ∃ ds, cs = '"' :: ds ∧ body = protectLast ds := by
  match cs with
  | [] => cases h
  | [c] =>
    rw [protectLast_singleton] at h
    split at h
    · cases h
    next hc => exact absurd (List.cons.inj h).1 hc
  | c :: d :: cs =>
    by_cases hguarded : c = '\\' ∧ d = '"' ∧ cs = []
    · obtain ⟨rfl, rfl, rfl⟩ := hguarded
      cases h
    · rw [protectLast_cons_cons hguarded] at h
      cases h
      exact ⟨_, rfl, rfl⟩

private theorem protectLast_escaped {e : Char} {cs : List Char} (h : e = '\\' → cs ≠ ['"']) :
    protectLast ('\\' :: e :: cs) = '\\' :: e :: protectLast cs := by
  match cs with
  | [] =>
    by_cases he : e = '"'
    · rw [he]
      rfl
    · exact protectLast_concat he ['\\']
  | c :: cs =>
    have hsecond : ¬ (e = '\\' ∧ c = '"' ∧ cs = []) := by
      rintro ⟨he, rfl, rfl⟩
      exact h he rfl
    rw [protectLast_cons_cons (by simp), protectLast_cons_cons hsecond]

/-- Between three quotes a text is written as it has to be, unless it ends with a backslash and a quote. -/
theorem longBody_written {cs : List Char} (h : ¬ ['\\', '"'] <:+ cs) : LongWritten cs (protectLast (longBody cs)) := by
  fun_induction longBody cs with
  | case1 cs ih =>
    have hrest := ih fun hsuffix => h (hsuffix.trans ⟨['"', '"', '"'], rfl⟩)
    show LongWritten _ (protectLast ('\\' :: '"' :: '\\' :: '"' :: '\\' :: '"' :: longBody cs))
    rw [protectLast_escaped (by simp), protectLast_escaped (by simp), protectLast_escaped (by simp)]
    have hquote : '"' ∈ ['\\', '"', 'r'] := by decide
    exact .escaped hquote (.escaped hquote (.escaped hquote hrest))
  | case2 cs ih =>
    have hrest := ih fun hsuffix => h (hsuffix.trans (List.suffix_cons _ _))
    rw [protectLast_escaped fun _ hbody => ?_]
    · exact .escaped (e := '\\') (by decide) hrest
    · obtain ⟨ds, rfl, hds⟩ := quote_of_longBody hbody
      rw [longBody_eq_nil hds.symm] at h
      exact h (List.suffix_refl _)
  | case3 cs ih =>
    have hrest := ih fun hsuffix => h (hsuffix.trans (List.suffix_cons _ _))
    rw [protectLast_escaped fun hr => absurd hr (by decide)]
    exact .escaped (e := 'r') (by decide) hrest
  | case4 c cs hquotes hback hreturn ih =>
    have hrest := ih fun hsuffix => h (hsuffix.trans (List.suffix_cons _ _))
    by_cases hnil : longBody cs = []
    · obtain rfl := longBody_eq_nil hnil
      rw [hnil, protectLast_singleton]
      split
      next hc =>
        subst hc
        exact .escaped (e := '"') (by decide) .nil
      next hc => exact .plain hback hc .nil
    rw [protectLast_cons hback hnil]
    by_cases hc : c = '"'
    · cases hbody : protectLast (longBody cs) with
      | nil => exact absurd (protectLast_eq_nil hbody) hnil
      | cons d body =>
        rw [hbody] at hrest
        refine hc ▸ .quote (fun hprefix => ?_) hrest
        -- two quotes after this one would make three in the text
        obtain ⟨hd, hprefix⟩ := List.cons_prefix_cons.1 hprefix
        obtain ⟨e, tail, rfl⟩ := List.exists_cons_of_ne_nil (List.ne_nil_of_length_pos hprefix.length_le)
        obtain ⟨he, -⟩ := List.cons_prefix_cons.1 hprefix
        rw [← hd, ← he] at hbody
        obtain ⟨ds, hds, htail⟩ := quote_of_protectLast hbody
        obtain ⟨es, rfl, rfl⟩ := quote_of_longBody hds
        obtain ⟨fs, hfs, -⟩ := quote_of_protectLast htail.symm
        obtain ⟨gs, rfl, -⟩ := quote_of_longBody hfs
        exact hquotes gs hc rfl
    · exact .plain hback hc hrest
  | case5 => exact .nil

/-- A backslash separates what is written before it from what is written from it on. -/
private theorem longBody_append (cs ds : List Char) :
    longBody (cs ++ '\\' :: ds) = longBody cs ++ longBody ('\\' :: ds) := by
  fun_induction longBody cs with
  | case1 cs ih | case2 cs ih | case3 cs ih => simp only [List.cons_append, longBody, ih, List.append_assoc]
  | case4 c cs hquotes hback hreturn ih =>
    have hthree : ¬ ['"', '"', '"'] <+: c :: (cs ++ '\\' :: ds) := by
      intro hprefix
      obtain ⟨hc, hrest⟩ := List.cons_prefix_cons.1 hprefix
      match cs with
      | [] => simp at hrest
      | [e] => simp at hrest
      | e :: f :: cs =>
        obtain ⟨he, hrest⟩ := List.cons_prefix_cons.1 hrest
        obtain ⟨hf, -⟩ := List.cons_prefix_cons.1 hrest
        exact hquotes cs hc.symm (by rw [← he, ← hf])
    rw [List.cons_append, longBody_plain hback hreturn hthree, ih, List.cons_append]
  | case5 => rfl

/-- What is written for a text that ends with a backslash and a quote is a whole text without the quote, and one quote
more. -/
theorem longBody_leftover (cs : List Char) :
    LongWritten (cs ++ ['\\']) (longBody (cs ++ ['\\'])) ∧
      longQuoted (protectLast (longBody (cs ++ ['\\', '"']))) = longQuoted (longBody (cs ++ ['\\'])) ++ ['"'] := by
  have hbefore : longBody (cs ++ ['\\']) = longBody cs ++ ['\\', '\\'] := longBody_append cs []
  have hwhole : longBody (cs ++ ['\\', '"']) = longBody cs ++ ['\\'] ++ ['\\', '"'] := by
    rw [longBody_append, List.append_assoc]
    rfl
  refine ⟨?_, ?_⟩
  · have hend : protectLast (longBody (cs ++ ['\\'])) = longBody (cs ++ ['\\']) := by
      rw [hbefore, List.append_cons]
      exact protectLast_concat (by decide) _
    have hclosed : ¬ ['\\', '"'] <:+ cs ++ ['\\'] := by
      rintro ⟨before, hbefore⟩
      simpa using congrArg List.getLast? hbefore
    have hwritten := longBody_written hclosed
    rwa [hend] at hwritten
  · rw [hbefore, hwhole, protectLast_guarded]
    simp [longQuoted]

/-! ### Texts in quotes -/

/-- A text on one line is escaped between two quotation marks. -/
theorem quotedLexical_eq {cs : List Char} (h : '\n' ∉ cs) : quotedLexical cs = '"' :: escape cs ++ ['"'] := by
  rw [quotedLexical, if_neg (by simpa using h)]

/-- A text on several lines is put between three quotation marks, with the last one inside protected. -/
theorem quotedLexical_lines {cs : List Char} (h : '\n' ∈ cs) :
    quotedLexical cs = longQuoted (protectLast (longBody cs)) := by
  rw [quotedLexical, if_pos (by simpa using h)]
  rfl

/-! ### Which characters are written -/

private theorem mem_longBody {c : Char} {cs : List Char} (h : c ∈ longBody cs) : c ∈ cs ∨ c ∈ ['\\', '"', 'r'] := by
  fun_induction longBody cs with
  | case1 cs ih =>
    rcases List.mem_append.1 h with h | h
    · have hall : ∀ d ∈ ['\\', '"', '\\', '"', '\\', '"'], d ∈ ['\\', '"', 'r'] := by decide
      exact .inr (hall c h)
    · exact (ih h).imp_left fun h => by simp [h]
  | case2 cs ih =>
    rcases List.mem_cons.1 h with rfl | h
    · exact .inr (by decide)
    rcases List.mem_cons.1 h with rfl | h
    · exact .inr (by decide)
    · exact (ih h).imp_left (List.mem_cons_of_mem _)
  | case3 cs ih =>
    rcases List.mem_cons.1 h with rfl | h
    · exact .inr (by decide)
    rcases List.mem_cons.1 h with rfl | h
    · exact .inr (by decide)
    · exact (ih h).imp_left (List.mem_cons_of_mem _)
  | case4 d cs _ _ _ ih =>
    rcases List.mem_cons.1 h with rfl | h
    · exact .inl List.mem_cons_self
    · exact (ih h).imp_left (List.mem_cons_of_mem _)
  | case5 => exact .inl h

private theorem mem_protectLast {c : Char} {cs : List Char} (h : c ∈ protectLast cs) : c ∈ cs ∨ c ∈ ['\\', '"'] := by
  unfold protectLast at h
  split at h
  · exact .inl h
  next rest _ hrest =>
    rcases List.mem_append.1 h with h | h
    · exact .inl (List.mem_reverse.1 (hrest ▸ List.mem_cons_of_mem _ (List.mem_reverse.1 h)))
    · exact .inr h
  · exact .inl h

theorem mem_quotedLexical {c : Char} {cs : List Char} (h : c ∈ quotedLexical cs) : c ∈ cs ∨ c ∈ ['\\', '"', 'r'] := by
  have hquotes : ∀ d ∈ "\"\"\"".toList, d ∈ ['\\', '"', 'r'] := by decide
  have hguard : ∀ d ∈ ['\\', '"'], d ∈ ['\\', '"', 'r'] := by decide
  unfold quotedLexical at h
  split at h
  · rcases List.mem_append.1 h with h | h
    · rcases List.mem_append.1 h with h | h
      · exact .inr (hquotes c h)
      · rcases mem_protectLast h with h | h
        · exact mem_longBody h
        · exact .inr (hguard c h)
    · exact .inr (hquotes c h)
  next hline =>
    have hquoted : c = '"' ∨ c ∈ escape cs := by simpa [or_comm, or_assoc] using h
    rcases hquoted with rfl | h
    · exact .inr (by decide)
    -- the only letter that is brought in but `r` stands for a line end, and there is none
    obtain ⟨d, hd, hc⟩ := List.mem_flatMap.1 h
    rcases escapeChar_cases d with ⟨hchar, -⟩ | ⟨e, hchar, he, hnamed⟩
    · rw [hchar, List.mem_singleton] at hc
      exact .inl (hc ▸ hd)
    · rw [hchar] at hc
      rcases List.mem_cons.1 hc with rfl | hc
      · exact .inr List.mem_cons_self
      · obtain rfl := List.mem_singleton.1 hc
        have hn : c ≠ 'n' := by
          rintro rfl
          exact hline (by simpa [← hnamed, namedEscape] using hd)
        simpa [hn] using Or.inr (a := c ∈ cs) he

end PointOfFocus.Rdf
