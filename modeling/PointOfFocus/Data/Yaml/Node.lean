import PointOfFocus.Data.Yaml.Layout
import PointOfFocus.Data.Yaml.Tag

/-!
# Nodes of a YAML document

A document is a tree of scalars, lists and mappings, each with a tag that says what it stands for. A node can be named
and used again under its name. The tree is read off the tokens by one function for each kind of node; all of them take
a bound on the depth, which the number of tokens gives.
-/

namespace PointOfFocus.Data.Yaml

/-- A node of a document. -/
inductive Node where
  /-- A scalar. -/
  | scalar (tag : Tag) (text : String)
  /-- A list. -/
  | sequence (tag : Tag) (items : List Node)
  /-- A mapping: its keys with their values. -/
  | mapping (tag : Tag) (entries : List (Node × Node))

instance : Inhabited Node := ⟨.scalar .null ""⟩

/-- What is known while a document is read. -/
structure Reading where
  /-- The tokens that are left. -/
  tokens : List Token
  /-- The fault that ends the tokens. -/
  fault : Option ScanError
  /-- What the handles of tags stand for. -/
  handles : List (String × String) := defaultHandles
  /-- The nodes that have names; a node that is not complete yet is missing. -/
  named : List (String × Option Node) := []

/-- A step of reading a document. -/
abbrev Reader := StateT Reading (Except ScanError)

/-- The fault of tokens that are no document. -/
def refuse {α : Type} : Reader α := throw .malformed

/-- The next token. Where the tokens end before their time, the fault of the text shows. -/
def peek : Reader Token := do
  let r ← get
  match r.tokens, r.fault with
  | t :: _, _ => return t
  | [], some e => throw e
  | [], none => refuse

/-- Goes on after the next token. -/
def skip : Reader Unit := modify fun r => { r with tokens := r.tokens.tail }

/-- Goes on after the next token if it is the given one, and tells whether it is. -/
def skipIf (t : Token) : Reader Bool := do
  if (← peek) = t then
    skip
    return true
  else return false

/-- Goes on after the next token, which must be the given one. -/
def demand (t : Token) : Reader Unit := do
  if !(← skipIf t) then refuse

/-- Whether the next token is one of some. -/
def isAt (ts : List Token) : Reader Bool := do
  return ts.contains (← peek)

/-! ### Properties of a node -/

/-- A name, if one stands here. -/
def anchor? : Reader (Option String) := do
  match ← peek with
  | .anchor name =>
    skip
    return some name
  | _ => return none

/-- A tag, if one stands here. -/
def tag? : Reader (Option String) := do
  match ← peek with
  | .tag none rest =>
    skip
    return some rest
  | .tag (some handle) rest =>
    skip
    match (← get).handles.find? (·.1 = handle) with
    | some (_, meaning) => return some (meaning ++ rest)
    | none => refuse
  | _ => return none

/-- The name and the tag of a node, in either order. -/
def properties : Reader (Option String × Option String) := do
  match ← anchor? with
  | some name => return (some name, ← tag?)
  | none =>
    let tag ← tag?
    return (← anchor?, tag)

/-- Gives a name to a node. No name is given twice. -/
def announce : Option String → Reader Unit
  | none => pure ()
  | some name => do
    if (← get).named.any (·.1 = name) then refuse
    modify fun r => { r with named := (name, none) :: r.named }

/-- Completes a node that was given a name. -/
def complete (name : Option String) (n : Node) : Reader Node := do
  modify fun r =>
    { r with named := r.named.map fun entry => if some entry.1 = name then (entry.1, some n) else entry }
  return n

/-- The node with a name. -/
def anchored (name : String) : Reader Node := do
  match (← get).named.find? (·.1 = name) with
  | some (_, some n) => return n
  | _ => refuse

/-- The scalar that stands where nothing is written. -/
def emptyScalar : Node := .scalar (.resolve "") ""

/-! ### Nodes -/

/-- Where a node stands. -/
inductive Place where
  /-- Where indentation delimits collections. -/
  | block
  /-- There, and dashes may stand at the indentation of the mapping around them. -/
  | entry
  /-- Between brackets. -/
  | flow
deriving DecidableEq

mutual

/-- A node. -/
def node : Nat → Place → Reader Node
  | 0, _ => refuse
  | bound + 1, place => do
    if let .alias name ← peek then
      skip
      return ← anchored name
    let (name, tag) ← properties
    announce name
    let t ← peek
    if place = .entry && t = .dash then
      complete name (.sequence (.ofCollection tag .sequence) (← dashItems bound))
    else
      match t with
      | .scalar text plain =>
        skip
        complete name (.scalar (.ofScalar tag text plain) text)
      | .openBracket =>
        skip
        complete name (.sequence (.ofCollection tag .sequence) (← flowItems bound true))
      | .openBrace =>
        skip
        complete name (.mapping (.ofCollection tag .mapping) (← flowEntries bound true))
      | _ =>
        if place ≠ .flow && t = .blockSequence then
          skip
          complete name (.sequence (.ofCollection tag .sequence) (← blockItems bound))
        else if place ≠ .flow && t = .blockMapping then
          skip
          complete name (.mapping (.ofCollection tag .mapping) (← blockEntries bound))
        else if name.isSome || tag.isSome then
          complete name (.scalar (.ofScalar tag "" (tag.isNone || tag = some "!")) "")
        else refuse

/-- A node, or an empty scalar if one of some tokens stands here. -/
def nodeUnless : Nat → Place → List Token → Reader Node
  | 0, _, _ => refuse
  | bound + 1, place, ends => do
    if ← isAt ends then return emptyScalar else node bound place

/-- The items of a list up to the end of its indentation. -/
def blockItems : Nat → Reader (List Node)
  | 0 => refuse
  | bound + 1 => do
    if ← skipIf .dash then
      let item ← nodeUnless bound .block [.dash, .blockEnd]
      return item :: (← blockItems bound)
    else
      demand .blockEnd
      return []

/-- The items of a list at the indentation of the mapping around it. -/
def dashItems : Nat → Reader (List Node)
  | 0 => refuse
  | bound + 1 => do
    if ← skipIf .dash then
      let item ← nodeUnless bound .block [.dash, .key, .value, .blockEnd]
      return item :: (← dashItems bound)
    else return []

/-- The entries of a mapping up to the end of its indentation. -/
def blockEntries : Nat → Reader (List (Node × Node))
  | 0 => refuse
  | bound + 1 => do
    if ← skipIf .key then
      let key ← nodeUnless bound .entry [.key, .value, .blockEnd]
      let value ← if ← skipIf .value then nodeUnless bound .entry [.key, .value, .blockEnd] else pure emptyScalar
      return (key, value) :: (← blockEntries bound)
    else
      demand .blockEnd
      return []

/-- The items of a list up to its closing bracket. A pair of a key and a value is a mapping. -/
def flowItems : Nat → (first : Bool) → Reader (List Node)
  | 0, _ => refuse
  | bound + 1, first => do
    if ← skipIf .closeBracket then return []
    if !first then demand .comma
    if ← skipIf .closeBracket then return []
    if ← skipIf .key then
      let key ← nodeUnless bound .flow [.value, .comma, .closeBracket]
      let value ← if ← skipIf .value then nodeUnless bound .flow [.comma, .closeBracket] else pure emptyScalar
      return .mapping (.ofCollection none .mapping) [(key, value)] :: (← flowItems bound false)
    else
      let item ← node bound .flow
      return item :: (← flowItems bound false)

/-- The entries of a mapping up to its closing bracket. -/
def flowEntries : Nat → (first : Bool) → Reader (List (Node × Node))
  | 0, _ => refuse
  | bound + 1, first => do
    if ← skipIf .closeBrace then return []
    if !first then demand .comma
    if ← skipIf .closeBrace then return []
    if ← skipIf .key then
      let key ← nodeUnless bound .flow [.value, .comma, .closeBrace]
      let value ← if ← skipIf .value then nodeUnless bound .flow [.comma, .closeBrace] else pure emptyScalar
      return (key, value) :: (← flowEntries bound false)
    else
      let key ← node bound .flow
      return (key, emptyScalar) :: (← flowEntries bound false)

end

/-! ### Documents -/

/-- The declarations before a document. There is at most one version, which must be a first one, and no handle is
declared twice. -/
def declarations : Nat → (versioned : Bool) → (handles : List (String × String)) → Reader (List (String × String))
  | 0, _, _ => refuse
  | bound + 1, versioned, handles => do
    match ← peek with
    | .version major _ =>
      if versioned || major ≠ 1 then refuse
      skip
      declarations bound true handles
    | .handle name meaning =>
      if handles.any (·.1 = name) then refuse
      skip
      declarations bound versioned (handles ++ [(name, meaning)])
    | .declaration =>
      skip
      declarations bound versioned handles
    | _ => return handles

/-- Whether a document with declarations or a mark starts here. -/
def startsExplicitly : Token → Bool
  | .version .. | .handle .. | .declaration | .documentStart => true
  | _ => false

/-- Whether nothing is written after the mark of a document. -/
def endsDocument (t : Token) : Bool :=
  startsExplicitly t || t = .documentEnd || t = .streamEnd

/-- Marks of the ends of documents. -/
def skipEnds : Nat → Reader Unit
  | 0 => refuse
  | bound + 1 => do if ← skipIf .documentEnd then skipEnds bound

/-- The only document of a text, if the text has one. -/
def document (bound : Nat) : Reader (Option Node) := do
  let t ← peek
  if t = .streamEnd then return none
  else
    let root ←
      if startsExplicitly t then do
        let handles ← declarations bound false []
        modify fun r => { r with handles := handles ++ defaultHandles }
        demand .documentStart
        if endsDocument (← peek) then pure emptyScalar else node bound .block
      else node bound .block
    skipEnds bound
    demand .streamEnd
    return some root

/-- Reads the nodes of a text. -/
def Node.read (cs : List Char) : Except ScanError (Option Node) :=
  let (tokens, fault) := tokens cs
  ((document (3 * tokens.length + 3)).run { tokens, fault }).map (·.1)

end PointOfFocus.Data.Yaml
