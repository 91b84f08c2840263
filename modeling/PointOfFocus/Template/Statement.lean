import PointOfFocus.Template.Expression

/-!
# Reading statements

The nodes of a template are read up to its end, or up to a tag that the enclosing block awaits. A block that is not
closed, and a tag that nothing awaits, are reported together with the tags that would have fitted.
-/

namespace PointOfFocus.Template

/-! ### Targets -/

mutual

/-- What can be given a value in place of an expression, if anything can. -/
def Expr.target? : Expr → Option Target
  | .name word => some (.name word)
  | .member (.name word) part => some (.part word part)
  | .tuple es => (targets? es).map .group
  | _ => none

/-- What can be given values in place of expressions. -/
def targets? : List Expr → Option (List Target)
  | [] => some []
  | e :: es => do
    let first ← e.target?
    return first :: (← targets? es)

end

/-- A name that may be given a value, or a part of the value of a name. -/
def targetItem (withParts : Bool) (bound : Nat) : Reader Expr := do
  let e ← primary (expression bound) bound
  match e with
  | .name _ =>
    if withParts then
      if ← skipOperator "." then return .member e (← anyName) else return e
    else return e
  | _ => return e

/-- What is given a value; `atEnd` tells where it ends. -/
def target (withParts : Bool) (atEnd : Reader Bool) (bound : Nat) : Reader Target := do
  let line := (← current).line
  let e ← groupOf (targetItem withParts bound) atEnd false bound
  match e.target? with
  | some t => return t
  | none => failAt line (.notAssignable e.kind)

/-! ### Blocks -/

/-- The blocks that are open, innermost first, and for each the tags that end its part. -/
structure Context where
  /-- The tags that are awaited. -/
  awaited : List (List String) := []
  /-- The names of the blocks. -/
  blocks : List String := []

/-- The nodes of a part of a block up to one of the tags, given how to read nodes. -/
def part (inner : Context → Reader (List Node)) (context : Context) (tags : List String) :
    Reader (List Node) := do
  let _ ← skipOperator ":"
  expectBlockEnd
  let nodes ← inner { context with awaited := tags :: context.awaited }
  let t ← current
  match t.mark with
  | .eof => failAt t.line (.unclosed tags context.blocks.head?)
  | _ => return nodes

/-- The last part of a block, with the tag that ends it. -/
def lastPart (inner : Context → Reader (List Node)) (context : Context) (tag : String) :
    Reader (List Node) := do
  let nodes ← part inner context [tag]
  let _ ← advance
  return nodes

/-- The rest of a loop, after its word; the loop starts in the given line. -/
def loopNode (inner : Context → Reader (List Node)) (bound line : Nat) (context : Context) : Reader Node := do
  let goal ← target false (atName "in") bound
  expectName "in"
  let source ← tested (atName "recursive") bound
  let condition ← if ← skipName "if" then do pure (some (← expression bound)) else pure none
  let _ ← skipName "recursive"
  let body ← part inner context ["endfor", "else"]
  if ← skipName "endfor" then return .loop goal source condition body [] line
  else
    let _ ← advance
    return .loop goal source condition body (← lastPart inner context "endfor") line

/-- The rest of a branch, after its word; each further test is one step. -/
def branchNode (inner : Context → Reader (List Node)) (bound : Nat) (context : Context) : Nat → Reader Node
  | 0 => do failAt (← current).line .tooDeep
  | steps + 1 => do
    let test ← tested (return false) bound
    let body ← part inner context ["elif", "else", "endif"]
    if ← skipName "elif" then return .branch test body [← branchNode inner bound context steps]
    else if ← skipName "else" then return .branch test body (← lastPart inner context "endif")
    else
      let _ ← advance
      return .branch test body []

/-- The filters that a captured text is put through. -/
def captureFilters (bound : Nat) : Nat → Expr → Reader Expr
  | 0, e => return e
  | steps + 1, e => do
    if ← skipOperator "|" then captureFilters bound steps (← oneFilter (expression bound) bound e) else return e

/-- The rest of an assignment, after its word; it starts in the given line. -/
def assignNode (inner : Context → Reader (List Node)) (bound line : Nat) (context : Context) : Reader Node := do
  let goal ← target true (return false) bound
  if ← skipOperator "=" then return .assign goal (← printed bound) line
  else
    let value ← captureFilters bound bound (.name "")
    return .capture goal value (← lastPart inner context "endset") line

/-- The targets and values of a scoped block up to the end of its tag, after those read already. -/
def scopedValues (bound : Nat) : Nat → List (Target × Expr) → Reader (List (Target × Expr))
  | 0, found => return found
  | steps + 1, found => do
    match (← current).mark with
    | .blockEnd => return found
    | _ =>
      if !found.isEmpty then expectOperator ","
      let goal ← target false (return false) bound
      expectOperator "="
      scopedValues bound steps (found ++ [(goal, ← expression bound)])

/-- The expressions of a statement that prints, after those read already. -/
def printedValues (bound : Nat) : Nat → List Node → Reader (List Node)
  | 0, found => return found
  | steps + 1, found => do
    match (← current).mark with
    | .blockEnd => return found
    | _ =>
      if !found.isEmpty then expectOperator ","
      printedValues bound steps (found ++ [.print (← expression bound)])

/-- The words that start a statement. -/
def statementWords : List String := ["for", "if", "set", "with", "print"]

/-- The nodes of a statement, after its word. -/
def statement (inner : Context → Reader (List Node)) (bound line : Nat) (context : Context) (word : String) :
    Reader (List Node) := do
  match word with
  | "for" => return [← loopNode inner bound line context]
  | "if" => return [← branchNode inner bound context bound]
  | "set" => return [← assignNode inner bound line context]
  | "with" =>
    let values ← scopedValues bound bound []
    return [.scoped values (← lastPart inner context "endwith")]
  | _ => printedValues bound bound []

/-- The nodes up to the end of the template or to an awaited tag. -/
def readNodes : Nat → Context → Reader (List Node)
  | 0, _ => do failAt (← current).line .tooDeep
  | bound + 1, context => do
    let t ← current
    match t.mark with
    | .text s =>
      let _ ← advance
      return .text s :: (← readNodes bound context)
    | .printStart =>
      let _ ← advance
      let e ← printed bound
      expectPrintEnd
      return .print e :: (← readNodes bound context)
    | .blockStart =>
      let _ ← advance
      let t ← current
      match t.mark with
      | .name s =>
        if (context.awaited.headD []).contains s then return []
        else if statementWords.contains s then
          let _ ← advance
          let nodes ← statement (readNodes bound) bound t.line { context with blocks := s :: context.blocks } s
          expectBlockEnd
          return nodes ++ (← readNodes bound context)
        else
          failAt t.line (.unknownTag s (context.awaited.headD []) context.awaited.flatten context.blocks.head?)
      | _ => failAt t.line .missingName
    | _ => return []

/-- The nodes of a template whose filters and tests are not looked at. -/
def readTree (text : String) : Except Fault (List Node) := do
  let tokens := tokenize text
  let (tree, _) ← (do checkToken (← current); readNodes (tokens.length + 8) {} : Reader (List Node)).run tokens
  return tree

end PointOfFocus.Template
