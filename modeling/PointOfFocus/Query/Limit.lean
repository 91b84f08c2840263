import PointOfFocus.Number.Integer
import PointOfFocus.Text.Word

/-!
# The limit of a query

A limit clause is the word `limit` in any case, then blanks, then a number, where no word character stands right
before or right after the clause. Setting the limit puts the new number into every such clause of a text; a text
without one gets a clause at its end.

The clauses are found in the bare text, so a clause inside a comment or a quoted text counts as well.
-/

namespace PointOfFocus.Query

open PointOfFocus.Text
open PointOfFocus.Number (WriteError writeInteger)

/-- Whether the character is the given small letter in either case. The letter `i` has two more forms, the capital
with a dot and the small letter without one. -/
def isLetter (letter c : Char) : Bool :=
  c.toLower = letter || (letter = 'i' && (c = '\u0130' || c = '\u0131'))

/-- What follows a word at the start of a text. -/
def afterWord? : List Char → List Char → Option (List Char)
  | [], cs => some cs
  | _ :: _, [] => none
  | letter :: word, c :: cs => if isLetter letter c then afterWord? word cs else none

/-- What follows a run of at least one character of a kind at the start of a text. -/
def afterRun? (kind : Char → Bool) : List Char → Option (List Char)
  | [] => none
  | c :: cs => if kind c then some (cs.dropWhile kind) else none

/-- Whether the text starts with a word character. -/
def startsInWord : List Char → Bool
  | [] => false
  | c :: _ => isWord c

/-- What follows a limit clause at the start of a text; `inWord` tells whether a word character stands before it. -/
def afterClause? (inWord : Bool) (cs : List Char) : Option (List Char) :=
  if inWord then none
  else
    (((afterWord? "limit".toList cs).bind (afterRun? isBlank)).bind (afterRun? isDigit)).filter (!startsInWord ·)

private theorem length_afterWord? {word cs rest : List Char} (h : afterWord? word cs = some rest) :
    rest.length + word.length = cs.length := by
  induction word generalizing cs with
  | nil => simp_all [afterWord?]
  | cons letter word ih =>
    cases cs with
    | nil => simp [afterWord?] at h
    | cons c cs =>
      simp only [afterWord?] at h
      split at h
      · simp [← ih h]; omega
      · simp at h

private theorem length_afterRun?_lt {kind : Char → Bool} {cs rest : List Char} (h : afterRun? kind cs = some rest) :
    rest.length < cs.length := by
  cases cs with
  | nil => simp [afterRun?] at h
  | cons c cs =>
    simp only [afterRun?] at h
    split at h
    · have := (List.dropWhile_sublist kind (l := cs)).length_le
      simp at h; simp [← h]; omega
    · simp at h

/-- A limit clause is not empty. -/
private theorem length_afterClause?_lt {inWord : Bool} {cs rest : List Char} (h : afterClause? inWord cs = some rest) :
    rest.length < cs.length := by
  unfold afterClause? at h
  split at h
  · simp at h
  · obtain ⟨h, -⟩ := Option.filter_eq_some_iff.1 h
    obtain ⟨afterBlanks, h, hdigits⟩ := Option.bind_eq_some_iff.1 h
    obtain ⟨afterLimit, hword, hblanks⟩ := Option.bind_eq_some_iff.1 h
    have h₁ := length_afterWord? hword
    have h₂ := length_afterRun?_lt hblanks
    have h₃ := length_afterRun?_lt hdigits
    omega

/-- Puts a text in the place of every limit clause. -/
def replaceClauses (clause : List Char) (inWord : Bool) (cs : List Char) : List Char :=
  match cs with
  | [] => []
  | c :: cs =>
    match h : afterClause? inWord (c :: cs) with
    | some rest =>
      have := length_afterClause?_lt h
      clause ++ replaceClauses clause true rest
    | none => c :: replaceClauses clause (isWord c) cs
termination_by cs.length
decreasing_by
  · assumption
  · exact Nat.lt_succ_self cs.length

/-- Whether the text has a limit clause. -/
def hasClause (inWord : Bool) : List Char → Bool
  | [] => false
  | c :: cs => (afterClause? inWord (c :: cs)).isSome || hasClause (isWord c) cs

/-- The clause that sets a limit, given its number as it is written. -/
def limitClause (number : String) : List Char := "LIMIT ".toList ++ number.toList

/-- The text without the blanks at its end and the semicolons before them. -/
def dropTerminator (cs : List Char) : List Char :=
  ((dropBlanksRight cs).reverse.dropWhile (· = ';')).reverse

/-- Puts a clause in the place of the limit clauses of a query, or at its end if it has none. -/
def putClause (clause query : List Char) : List Char :=
  if hasClause false query then replaceClauses clause false query
  else dropTerminator query ++ '\n' :: clause

/-- Sets the limit of a query, unless the limit has too many digits to be written. -/
def setLimit (n : Int) (query : List Char) : Except WriteError (List Char) :=
  (writeInteger n).map fun number => putClause (limitClause number) query

end PointOfFocus.Query
