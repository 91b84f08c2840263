import PointOfFocus.Template.Token

/-!
# Reading tokens of a template

A reader takes tokens from the front of a list, whose last one is the end of the template and stays. Every token is
looked at when the one before it is taken, so that a place that no token fits is found at that point.
-/

namespace PointOfFocus.Template

/-- Reads tokens of a template. -/
abbrev Reader := StateT (List Token) (Except Fault)

/-- The token at hand. -/
def current : Reader Token := return (← get).headD ⟨.eof, 1⟩

/-- Stops with a fault in the given line. -/
def failAt {α : Type} (line : Nat) (cause : Cause) : Reader α := throw ⟨line, cause⟩

/-- Stops if the token is none. -/
def checkToken (t : Token) : Reader Unit :=
  match t with
  | ⟨.fault cause, line⟩ => failAt line cause
  | _ => return ()

/-- Takes the token at hand; the end of the template stays. -/
def advance : Reader Token := do
  let t ← current
  modify fun ts => if ts.length ≤ 1 then ts else ts.tail
  checkToken (← current)
  return t

/-- The token after the one at hand. -/
def following : Reader Token := do
  let ts ← get
  let next := (ts.tail.head?).getD (ts.headD ⟨.eof, 1⟩)
  checkToken next
  return next

/-- Stops because the token at hand is not what is described. -/
def failExpecting {α : Type} (what : String) : Reader α := do
  let t ← current
  match t.mark with
  | .eof => failAt t.line (.ended what)
  | mark => failAt t.line (.expected what mark.describe)

/-- Takes the end of a tag that prints. -/
def expectPrintEnd : Reader Unit := do
  match (← current).mark with
  | .printEnd => let _ ← advance
  | _ => failExpecting (Mark.describe .printEnd)

/-- Takes the end of a statement. -/
def expectBlockEnd : Reader Unit := do
  match (← current).mark with
  | .blockEnd => let _ ← advance
  | _ => failExpecting (Mark.describe .blockEnd)

/-- Whether the mark is the operator. -/
def Mark.isOperator (symbol : String) : Mark → Bool
  | .operator s => s = symbol
  | _ => false

/-- Whether the mark is the name. -/
def Mark.isName (word : String) : Mark → Bool
  | .name s => s = word
  | _ => false

/-- Whether the token at hand is the operator. -/
def atOperator (symbol : String) : Reader Bool := return (← current).mark.isOperator symbol

/-- Takes the operator at hand. -/
def expectOperator (symbol : String) : Reader Unit := do
  if ← atOperator symbol then let _ ← advance else failExpecting symbol

/-- Takes the token at hand if it is the operator, and tells whether it was. -/
def skipOperator (symbol : String) : Reader Bool := do
  if ← atOperator symbol then
    let _ ← advance
    return true
  else return false

/-- Whether the token at hand is the name. -/
def atName (word : String) : Reader Bool := return (← current).mark.isName word

/-- Takes the token at hand if it is the name, and tells whether it was. -/
def skipName (word : String) : Reader Bool := do
  if ← atName word then
    let _ ← advance
    return true
  else return false

/-- Takes the name at hand. -/
def expectName (word : String) : Reader Unit := do
  if !(← skipName word) then failExpecting word

/-- Takes a name, whatever it is. -/
def anyName : Reader String := do
  match (← current).mark with
  | .name s =>
    let _ ← advance
    return s
  | _ => failExpecting "name"

end PointOfFocus.Template
