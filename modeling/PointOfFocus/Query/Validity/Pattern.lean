import PointOfFocus.Query.Validity.Terminal

/-!
# Patterns of a text

A grammar gives a pattern for each of its parts. Recognizing a pattern is deterministic: a choice takes the first of
its patterns that is there and never comes back to it, and an optional or repeated pattern takes all it can.

Recognition goes down through the patterns of parts that stand for each other, so it takes a bound on its depth.
-/

namespace PointOfFocus.Query.Validity

/-- A place in a text. -/
structure Place where
  /-- The character before the place. -/
  before : Option Char := none
  /-- What follows. -/
  ahead : List Char
  /-- The labels of the prefixed names met so far. -/
  labels : List String := []

/-- Goes on by some characters. -/
def Place.move (s : Place) (length : Nat) : Place :=
  { s with before := (s.ahead.take length).getLast?.or s.before, ahead := s.ahead.drop length }

/-- The length of the blanks and comments at the start of a text; a comment ends with its line. -/
def gapLength (inComment : Bool) : List Char → Nat
  | [] => 0
  | c :: cs =>
    if inComment then gapLength (c ≠ '\n') cs + 1
    else if c = '#' then gapLength true cs + 1
    else if [' ', '\t', '\n', '\r'].contains c then gapLength false cs + 1
    else 0

/-- The place after blanks and comments. -/
def Place.afterGap (s : Place) : Place := s.move (gapLength false s.ahead)

/-- The text of the terminal that stands right here, and the place after it. -/
def Place.readHere (s : Place) (t : Terminal) : Option (List Char × Place) :=
  (t.length? s.before s.ahead).map fun length =>
    (s.ahead.take length, { s.move length with labels := t.labels s.ahead ++ s.labels })

/-- The text of the terminal that stands here after blanks and comments, and the place after it. -/
def Place.read (s : Place) (t : Terminal) : Option (List Char × Place) := s.afterGap.readHere t

/-- A pattern of a text, where `Part` has the parts of the grammar. -/
inductive Pattern (Part : Type) where
  /-- A terminal, after blanks and comments. -/
  | terminal (t : Terminal)
  /-- A terminal with nothing before it. -/
  | attached (t : Terminal)
  /-- What the grammar gives for a part. -/
  | part (p : Part)
  /-- Patterns one after the other. -/
  | sequence (ps : List (Pattern Part))
  /-- The first pattern that is there. -/
  | choice (ps : List (Pattern Part))
  /-- A pattern that may be missing. -/
  | optional (p : Pattern Part)
  /-- A pattern as often as it is there. -/
  | many (p : Pattern Part)

/-- The place after a pattern, if it is there. -/
def Pattern.after? {Part : Type} (grammar : Part → Pattern Part) : Nat → Pattern Part → Place → Option Place
  | 0, _, _ => none
  | _ + 1, .terminal t, s => (s.read t).map (·.2)
  | _ + 1, .attached t, s => (s.readHere t).map (·.2)
  | depth + 1, .part p, s => after? grammar depth (grammar p) s
  | depth + 1, .sequence ps, s => ps.foldlM (fun s p => after? grammar depth p s) s
  | depth + 1, .choice ps, s => ps.findSome? fun p => after? grammar depth p s
  | depth + 1, .optional p, s => some ((after? grammar depth p s).getD s)
  | depth + 1, .many p, s =>
    match after? grammar depth p s with
    | some rest => after? grammar depth (.many p) rest
    | none => some s

end PointOfFocus.Query.Validity
