import PointOfFocus.Proofs.Query.Writing
import PointOfFocus.Text.Replace

/-!
# Texts that are put between quotes

A text goes between quotes by four replacements in turn: the backslashes, then the quotes, then the two line ends. Since
no replacement brings in a character that a later one replaces, this comes to writing each character for itself
(`escape_eq_replaceAll`). So the quotes around the text are the only ones that can end it, and what is cut out between
them is read back as the text (`tokensFrom_quoted`).
-/

namespace PointOfFocus.Text

private theorem replaceFrom_single (c : Char) (replacement cs : List Char) :
    replaceFrom [c] replacement 0 cs = cs.flatMap fun d => if d = c then replacement else [d] := by
  induction cs with
  | nil => rfl
  | cons d cs ih =>
    by_cases hd : d = c
    · subst hd
      simp [replaceFrom, List.isPrefixOf, ih]
    · have hne : (c == d) = false := beq_eq_false_iff_ne.2 (Ne.symm hd)
      simp [replaceFrom, List.isPrefixOf, hne, hd, ih]

/-- Replacing backslashes, quotes and line ends one after the other is writing each character for itself. -/
theorem escape_eq_replaceAll (cs : List Char) :
    escape cs =
      replaceAll "\r" "\\r" (replaceAll "\n" "\\n" (replaceAll "\"" "\\\"" (replaceAll "\\" "\\\\" cs))) := by
  simp only [replaceAll]
  have hback : "\\".toList = ['\\'] := rfl
  have hquote : "\"".toList = ['"'] := rfl
  have hline : "\n".toList = ['\n'] := rfl
  have hreturn : "\r".toList = ['\r'] := rfl
  rw [hback, hquote, hline, hreturn, replaceFrom_single, replaceFrom_single, replaceFrom_single, replaceFrom_single,
    List.flatMap_assoc, List.flatMap_assoc, List.flatMap_assoc, escape]
  refine List.flatMap_congr fun c _ => ?_
  unfold escapeChar
  by_cases hb : c = '\\'
  · subst hb
    rfl
  by_cases hq : c = '"'
  · subst hq
    rfl
  by_cases hn : c = '\n'
  · subst hn
    rfl
  by_cases hr : c = '\r'
  · subst hr
    rfl
  simp [hb, hq, hn, hr]

end PointOfFocus.Text

namespace PointOfFocus.Query

open PointOfFocus.Text

private theorem toList_inQuotes (v : String) : (inQuotes v).toList = '"' :: escape v.toList ++ ['"'] :=
  String.toList_ofList

/-- A text between quotes, with its backslashes, quotes and line ends replaced in turn, is cut out as one token that
ends at its closing quote, wherever it stands and unless a further quote follows. What the token stands for is the
text. -/
theorem tokensFrom_quoted (v : String) {rest : List Char} (h : rest.head? ≠ some '"') (offset : Nat) :
    (inQuotes v).toList =
      '"' :: replaceAll "\r" "\\r" (replaceAll "\n" "\\n" (replaceAll "\"" "\\\"" (replaceAll "\\" "\\\\" v.toList)))
        ++ ['"'] ∧
    lexeme? ((inQuotes v).toList ++ rest) = some (.token .string, (inQuotes v).length) ∧
    (tokensFrom 0 offset ((inQuotes v).toList ++ rest) = do
      return ⟨.string, inQuotes v, offset, offset + (inQuotes v).length⟩ ::
        (← tokensFrom 0 (offset + (inQuotes v).length) rest)) ∧
    quotedText (inQuotes v) = .ok v := by
  have hlexeme : lexeme? ((inQuotes v).toList ++ rest) = some (.token .string, (inQuotes v).toList.length) := by
    rw [toList_inQuotes]
    exact lexeme?_string v.toList h
  have hne : (inQuotes v).toList ≠ [] := by simp [toList_inQuotes]
  have hcut := tokensFrom_cut hne hlexeme offset
  rw [String.ofList_toList, String.length_toList] at hcut
  refine ⟨?_, hlexeme, hcut, quotedText_escape v⟩
  rw [toList_inQuotes, escape_eq_replaceAll]

/-- The text holds a backslash and two quotes, and a filter goes on after it. -/
theorem tokensFrom_quoted_breakout :
    (tokensFrom 0 7 ((inQuotes "\\\") \"").toList ++ ", 1)".toList)).toOption.bind (·.head?) =
        some ⟨.string, "\"\\\\\\\") \\\"\"", 7, 17⟩ ∧
      quotedText "\"\\\\\\\") \\\"\"" = .ok "\\\") \"" := by
  have hwritten : inQuotes "\\\") \"" = "\"\\\\\\\") \\\"\"" := by decide +kernel
  have hrest : ", 1)".toList.head? ≠ some '"' := by decide
  obtain ⟨-, -, htokens, htext⟩ := tokensFrom_quoted "\\\") \"" hrest 7
  rw [hwritten] at htokens htext ⊢
  rw [htokens]
  exact ⟨by decide +kernel, htext⟩

end PointOfFocus.Query
