import Mathlib.Data.List.TakeWhile
import PointOfFocus.Text.Position

/-!
# Lines and columns

The text before an offset is some lines with their line ends and the start of a further line. Counting the line ends
gives the line of the offset, and counting what stands in the further line gives its column (`SplitAt.positionAt`).

The other way round, a line and a column give the offset: the lines before it, each with its end, say where the line
starts (`lineOffset`), and the column says how far behind that the offset lies. So no two offsets have the same
place, and a later offset has a later place, also past the end of the text (`lineAndColumn_locates`).
-/

namespace PointOfFocus.Text

/-- The text before the offset is made of whole lines and of the start of the line with the offset. -/
structure SplitAt (text : List Char) (offset : Nat) (before line : List Char) : Prop where
  append : text.take offset = before ++ line
  whole : before = [] ∨ before.getLast? = some '\n'
  inside : '\n' ∉ line

/-- The characters after the last line end are those of the line that is not whole. -/
theorem exists_splitAt (text : List Char) (offset : Nat) :
    ∃ before line, SplitAt text offset before line ∧ before.length = lineStart text offset := by
  let taken := (text.take offset).reverse
  have hsplit : taken.takeWhile (· ≠ '\n') ++ taken.dropWhile (· ≠ '\n') = taken := List.takeWhile_append_dropWhile
  refine ⟨(taken.dropWhile (· ≠ '\n')).reverse, (taken.takeWhile (· ≠ '\n')).reverse, ⟨?_, ?_, ?_⟩, ?_⟩
  · rw [← List.reverse_append, hsplit, List.reverse_reverse]
  · cases hrest : taken.dropWhile (· ≠ '\n') with
    | nil => exact .inl rfl
    | cons c rest =>
      have hstop := List.head?_dropWhile_not (· ≠ '\n') taken
      rw [hrest] at hstop
      have hc : c = '\n' := by simpa using hstop
      exact .inr (by simp [hc])
  · intro hmem
    have hne := List.mem_takeWhile_imp (List.mem_reverse.1 hmem)
    simp at hne
  · have hlength := congrArg List.length hsplit
    rw [List.length_append] at hlength
    have htaken : taken.length = (text.take offset).length := List.length_reverse
    show (taken.dropWhile (· ≠ '\n')).reverse.length = (text.take offset).length - (taken.takeWhile (· ≠ '\n')).length
    rw [List.length_reverse]
    omega

/-- The line of an offset in a text is one more than the lines before it, and its column is one more than what stands
before it in its line. -/
theorem SplitAt.positionAt {text before line : List Char} {offset : Nat} (h : SplitAt text offset before line)
    (hstart : before.length = lineStart text offset) (hoffset : offset ≤ text.length) :
    positionAt text offset = ⟨before.count '\n' + 1, line.length + 1⟩ := by
  have hlines : (text.take offset).count '\n' = before.count '\n' := by
    rw [h.append, List.count_append, List.count_eq_zero.2 h.inside, Nat.add_zero]
  have hlength := congrArg List.length h.append
  rw [List.length_take, List.length_append, Nat.min_eq_left hoffset] at hlength
  have hcolumn : offset - lineStart text offset = line.length := by omega
  rw [Text.positionAt, hlines, hcolumn]

/-! ### Where a line starts -/

/-- The lines of a text, without their ends. -/
def lines (text : List Char) : List (List Char) := text.splitOn '\n'

/-- The offset of the first character of the line with the given number: the lines before it stand there with their
ends. -/
def lineOffset (text : List Char) (line : Nat) : Nat :=
  (((lines text).take (line - 1)).flatMap (· ++ ['\n'])).length

/-- There is one line more than there are line ends, and the lines with an end each are the text with one more end. -/
private theorem lines_counted (text : List Char) :
    (lines text).length = text.count '\n' + 1 ∧ (lines text).flatMap (· ++ ['\n']) = text ++ ['\n'] := by
  unfold lines
  induction text with
  | nil => exact ⟨rfl, rfl⟩
  | cons c cs ih =>
    obtain ⟨first, rest, hsplit⟩ := List.exists_cons_of_ne_nil (List.splitOn_ne_nil '\n' cs)
    rw [hsplit] at ih
    rw [List.splitOn_cons_eq_if_modifyHead, hsplit]
    by_cases hc : c = '\n'
    · simp only [hc, beq_self_eq_true, ↓reduceIte, List.length_cons, List.count_cons_self] at ih ⊢
      exact ⟨congrArg (· + 1) ih.1, congrArg ('\n' :: ·) ih.2⟩
    · simp only [beq_iff_eq, hc, ↓reduceIte, List.modifyHead_cons, List.length_cons, List.count_cons_of_ne hc] at ih ⊢
      exact ⟨ih.1, congrArg (c :: ·) ih.2⟩

/-- The characters of whole lines come before the line that follows them. -/
private theorem lineOffset_append {before : List Char} (h : before = [] ∨ before.getLast? = some '\n')
    (rest : List Char) : lineOffset (before ++ rest) (before.count '\n' + 1) = before.length := by
  rcases h with rfl | hlast
  · rfl
  · obtain ⟨whole, rfl⟩ := List.getLast?_eq_some_iff.1 hlast
    obtain ⟨hcount, hwhole⟩ := lines_counted whole
    have hsplit : lines (whole ++ ['\n'] ++ rest) = lines whole ++ lines rest := by
      rw [List.append_assoc, List.singleton_append, lines, List.splitOn_append_cons_self]
      rfl
    have hends : (whole ++ ['\n']).count '\n' + 1 - 1 = (lines whole).length := by simp [hcount]
    rw [lineOffset, hsplit, hends, List.take_left, hwhole]

/-- The line of an offset starts where its number says. -/
private theorem lineOffset_positionAt (text : List Char) (offset : Nat) :
    lineOffset text (positionAt text offset).line = lineStart text offset := by
  obtain ⟨before, line, hsplit, hstart⟩ := exists_splitAt text offset
  have hlines : (text.take offset).count '\n' = before.count '\n' := by
    rw [hsplit.append, List.count_append, List.count_eq_zero.2 hsplit.inside, Nat.add_zero]
  have htext : text = before ++ (line ++ text.drop offset) := by
    rw [← List.append_assoc, ← hsplit.append, List.take_append_drop]
  have hoffset := lineOffset_append hsplit.whole (line ++ text.drop offset)
  rw [← htext, hstart] at hoffset
  rw [positionAt, hlines, hoffset]

private theorem lineStart_le (text : List Char) (offset : Nat) : lineStart text offset ≤ offset :=
  Nat.le_trans (Nat.sub_le _ _) (List.length_take_le _ _)

/-- Between the start of its line and the offset there is no line end. -/
private theorem notMem_line (text : List Char) (offset : Nat) :
    '\n' ∉ (text.take offset).drop (lineStart text offset) := by
  obtain ⟨before, line, hsplit, hstart⟩ := exists_splitAt text offset
  rw [hsplit.append, ← hstart, List.drop_left]
  exact hsplit.inside

private theorem line_le (text : List Char) {offset later : Nat} (h : offset ≤ later) :
    (positionAt text offset).line ≤ (positionAt text later).line :=
  Nat.succ_le_succ ((List.take_prefix_take_left h).sublist.count_le _)

/-- A later offset is on a later line, or further to the right on the same one. -/
theorem positionAt_lt (text : List Char) {offset later : Nat} (h : offset < later) :
    (positionAt text offset).line < (positionAt text later).line ∨
      (positionAt text offset).line = (positionAt text later).line ∧
        (positionAt text offset).column < (positionAt text later).column := by
  rcases Nat.lt_or_eq_of_le (line_le text (Nat.le_of_lt h)) with hline | hline
  · exact .inl hline
  · have hstart : lineStart text offset = lineStart text later := by
      rw [← lineOffset_positionAt, ← lineOffset_positionAt, hline]
    have hle := lineStart_le text offset
    refine .inr ⟨hline, ?_⟩
    show offset - lineStart text offset + 1 < later - lineStart text later + 1
    omega

/-- The offset is as far behind the start of its line as its column says. -/
private theorem offset_eq (text : List Char) (offset : Nat) :
    (offset : Int) = lineOffset text (lineAndColumn text offset).1 + (lineAndColumn text offset).2 - 1 := by
  have hstart : lineOffset text (lineAndColumn text offset).1 = lineStart text offset := lineOffset_positionAt text offset
  have hcolumn : (lineAndColumn text offset).2 = ((offset - lineStart text offset + 1 : Nat) : Int) := rfl
  have hle := lineStart_le text offset
  rw [hstart, hcolumn]
  omega

/-- Different offsets have different places. -/
theorem lineAndColumn_injective (text : List Char) :
    Function.Injective (fun offset : Nat => lineAndColumn text offset) := by
  intro offset later h
  have hsame : lineAndColumn text offset = lineAndColumn text later := h
  have hoffset := offset_eq text offset
  rw [hsame, ← offset_eq] at hoffset
  exact Int.ofNat.inj hoffset

/-- A later offset has a later place. -/
theorem lineAndColumn_lt (text : List Char) {offset later : Nat} (h : offset < later) :
    Prod.Lex (· < ·) (· < ·) (lineAndColumn text offset) (lineAndColumn text later) :=
  Prod.lex_def.2 ((positionAt_lt text h).imp_right fun ⟨hline, hcolumn⟩ => ⟨hline, Int.ofNat_lt.2 hcolumn⟩)

/-- The line and the column of an offset locate it. The line is one of those of the text, the offset is as far behind the
line's first character as the column says, and no line end lies between. So different offsets have different places, and
a later offset has a later one. -/
theorem lineAndColumn_locates (text : List Char) :
    (∀ offset : Nat, ∃ line : Nat, ∃ column : Int, lineAndColumn text offset = (line, column) ∧
      1 ≤ line ∧ line ≤ (lines text).length ∧ 1 ≤ column ∧ (offset : Int) = lineOffset text line + column - 1 ∧
      ∀ i, lineOffset text line ≤ i → i < offset → text[i]? ≠ some '\n') ∧
      Function.Injective (fun offset : Nat => lineAndColumn text offset) ∧
      ∀ offset later : Nat, offset < later →
        Prod.Lex (· < ·) (· < ·) (lineAndColumn text offset) (lineAndColumn text later) := by
  refine ⟨fun offset => ?_, lineAndColumn_injective text, fun _ _ => lineAndColumn_lt text⟩
  refine ⟨_, _, rfl, Nat.le_add_left 1 _, ?_, Int.ofNat_le.2 (Nat.le_add_left 1 _), offset_eq text offset,
    fun i hfrom hto hchar => ?_⟩
  · rw [(lines_counted text).1]
    exact Nat.succ_le_succ ((List.take_sublist offset text).count_le _)
  · rw [lineOffset_positionAt] at hfrom
    refine notMem_line text offset (List.mem_of_getElem? (i := i - lineStart text offset) ?_)
    rw [List.getElem?_drop, Nat.add_sub_cancel' hfrom, List.getElem?_take_of_lt hto, hchar]

end PointOfFocus.Text
