import PointOfFocus.Query.Lexeme

/-!
# From text to tokens

A query is cut into tokens from left to right. Then every point of focus takes up what was typed before it: a
number and a slash, with or without gaps, or a name, a word or a number that touches it.
-/

namespace PointOfFocus.Query

open PointOfFocus.Number
open PointOfFocus.Text

/-- Why a text cannot be cut into tokens. -/
inductive TokenError where
  /-- No token starts with the character at the offset. -/
  | unexpected (c : Char) (offset : Nat)
  /-- The length of a path is too long a number. -/
  | pathLength (cause : IntegerError)
deriving DecidableEq

/-- The tokens of what is left of a text, from the offset on, after `skip` characters of a token already found. -/
def tokensFrom : Nat → Nat → List Char → Except TokenError (List Token)
  | _, _, [] => .ok []
  | skip + 1, offset, _ :: cs => tokensFrom skip (offset + 1) cs
  | 0, offset, c :: cs =>
    match lexeme? (c :: cs) with
    | none => .error (.unexpected c offset)
    | some (.gap, length) => tokensFrom (length - 1) (offset + 1) cs
    | some (.token kind, length) => do
      let rest ← tokensFrom (length - 1) (offset + 1) cs
      return ⟨kind, String.ofList ((c :: cs).take length), offset, offset + length⟩ :: rest

/-- Whether the token is a point of focus. -/
def Token.isFocus (t : Token) : Bool :=
  match t.kind with
  | .focus _ => true
  | _ => false

/-- The point of focus with a hint that starts where the given token does. -/
def Token.withHint (t : Token) (hint : Hint) (source : Token) : Token :=
  { t with kind := .focus hint, start := source.start }

/-- Puts a point of focus after the tokens before it, which are given last first, and lets it take up its hint. -/
def attachFocus (t : Token) : List Token → Except TokenError (List Token)
  | [] => .ok [t]
  | [previous] => .ok (touching previous [])
  | previous :: before :: rest =>
    if previous.kind = .symbol .slash && before.kind = .integer then
      match readInteger before.text with
      | .ok length => .ok (t.withHint (.pathLength length.toNat) before :: rest)
      | .error cause => .error (.pathLength cause)
    else .ok (touching previous (before :: rest))
where
  /-- Lets the point of focus take up the previous token if the two touch. -/
  touching (previous : Token) (rest : List Token) : List Token :=
    if previous.stop = t.start then
      match previous.kind with
      | .prefixedName =>
        let (label, part) := splitName previous.text
        t.withHint (.nameStart label part) previous :: rest
      | .word | .integer | .decimal => t.withHint (.keyword previous.text) previous :: rest
      | _ => t :: previous :: rest
    else t :: previous :: rest

/-- Lets every point of focus take up its hint; the tokens already seen are given last first. -/
def attachHints : List Token → List Token → Except TokenError (List Token)
  | seen, [] => .ok seen.reverse
  | seen, t :: ts =>
    if t.isFocus then do attachHints (← attachFocus t seen) ts
    else attachHints (t :: seen) ts

/-- The tokens of a query, without the one for its end. -/
def tokens (text : List Char) : Except TokenError (List Token) := do
  attachHints [] (← tokensFrom 0 0 text)

/-- The tokens of a query, ending with the one for its end. -/
def tokenize (text : List Char) : Except TokenError (List Token) := do
  return (← tokens text) ++ [.eof text.length]

end PointOfFocus.Query
