import PointOfFocus.Data.Yaml.Token

/-!
# Indentation and keys

The tokens of a YAML text in order. Indentation opens and closes collections, and a key is known to be one only when
the colon after it is found: until then the place of a possible key is remembered, and the token for the key is put
there afterwards. A key of this kind stands on one line and has at most 1024 characters.
-/

namespace PointOfFocus.Data.Yaml

/-- A place where a key may have started. -/
structure PossibleKey where
  /-- The number of brackets that are open there. -/
  level : Nat
  /-- The number of tokens before it. -/
  position : Nat
  /-- Whether nothing but a key can stand there. -/
  required : Bool
  /-- The place in the text. -/
  place : Cursor

/-- What is known after a part of a text was read. -/
structure Layout where
  /-- The place in the text. -/
  cursor : Cursor
  /-- The tokens so far. -/
  tokens : Array Token := #[]
  /-- The indentation of the innermost collection, below zero outside of all. -/
  indent : Int := -1
  /-- The indentations of the collections around it, innermost first. -/
  outer : List Int := []
  /-- The number of brackets that are open. -/
  level : Nat := 0
  /-- Whether a key can start here. -/
  keyAllowed : Bool := true
  /-- The places where keys may have started, at most one for each level. -/
  keys : List PossibleKey := []

/-- The number of characters that a key can have. -/
def maxKeyLength : Nat := 1024

namespace Layout

/-- Adds a token. -/
def push (t : Token) (l : Layout) : Layout := { l with tokens := l.tokens.push t }

/-- Adds a token and goes on after it. -/
def pushAt (t : Token) (cursor : Cursor) (l : Layout) : Layout := { l with tokens := l.tokens.push t, cursor }

/-- Closes the collections with a greater indentation than the given one. -/
def unwind (column : Int) (l : Layout) : Layout :=
  if l.level ≠ 0 then l else go (l.outer.length + 1) l
where
  /-- Closes at most as many collections as the bound says. -/
  go : Nat → Layout → Layout
    | 0, l => l
    | bound + 1, l =>
      if column < l.indent then go bound { l.push .blockEnd with indent := l.outer.headD (-1), outer := l.outer.tail }
      else l

/-- Forgets the possible key at this level; a required one must not be forgotten. -/
def dropKey (l : Layout) : Except ScanError Layout :=
  if l.keys.any fun k => k.level = l.level && k.required then malformed
  else .ok { l with keys := l.keys.filter (·.level ≠ l.level) }

/-- Forgets the possible keys that have become too long. -/
def dropStaleKeys (l : Layout) : Except ScanError Layout :=
  let isStale := fun (k : PossibleKey) =>
    k.place.line ≠ l.cursor.line || maxKeyLength < l.cursor.index - k.place.index
  if l.keys.any fun k => isStale k && k.required then malformed
  else .ok { l with keys := l.keys.filter (!isStale ·) }

/-- Remembers that a key may start here. -/
def saveKey (l : Layout) : Except ScanError Layout :=
  if l.keyAllowed then do
    let required := l.level = 0 && l.indent = l.cursor.column
    let l ← l.dropKey
    return { l with keys := l.keys ++ [⟨l.level, l.tokens.size, required, l.cursor⟩] }
  else .ok l

/-- Opens a collection with the given indentation, unless it is open already, with its token at the given position. -/
def openAt (t : Token) (column position : Nat) (l : Layout) : Layout :=
  if l.indent < column then
    { l with indent := column, outer := l.indent :: l.outer,
             tokens := (l.tokens.toList.insertIdx position t).toArray }
  else l

/-- Opens a collection here, unless it is open already. -/
def openHere (t : Token) (l : Layout) : Layout := l.openAt t l.cursor.column l.tokens.size

/-- Goes to the next token, past spaces, line breaks and comments. -/
def skipGaps : Nat → Layout → Layout
  | 0, l => l
  | bound + 1, l =>
    let cursor := l.cursor.skipComment
    match cursor.takeBreak? with
    | some (_, cursor) => skipGaps bound { l with cursor, keyAllowed := l.keyAllowed || l.level = 0 }
    | none => { l with cursor }

/-! ### Kinds of tokens -/

/-- The end of the text. -/
def finish (l : Layout) : Except ScanError Layout := do
  let l ← (l.unwind (-1)).dropKey
  return l.push .streamEnd

/-- A declaration. -/
def declaration (l : Layout) : Except ScanError Layout := do
  let l ← (l.unwind (-1)).dropKey
  let (t, cursor) ← scanDeclaration l.cursor
  return { l.pushAt t cursor with keyAllowed := false }

/-- A mark of documents. -/
def mark (t : Token) (l : Layout) : Except ScanError Layout := do
  let l ← (l.unwind (-1)).dropKey
  return { l.pushAt t (l.cursor.forward 3) with keyAllowed := false }

/-- An opening bracket. -/
def opening (t : Token) (l : Layout) : Except ScanError Layout := do
  let l ← l.saveKey
  return { l.pushAt t l.cursor.next with level := l.level + 1, keyAllowed := true }

/-- A closing bracket. -/
def closing (t : Token) (l : Layout) : Except ScanError Layout := do
  let l ← l.dropKey
  if l.level = 0 then malformed
  else return { l.pushAt t l.cursor.next with level := l.level - 1, keyAllowed := false }

/-- A comma. -/
def comma (l : Layout) : Except ScanError Layout := do
  let l ← l.dropKey
  return { l.pushAt .comma l.cursor.next with keyAllowed := true }

/-- A dash before an item. -/
def dash (l : Layout) : Except ScanError Layout := do
  if l.level = 0 && !l.keyAllowed then malformed
  else
    let l := if l.level = 0 then l.openHere .blockSequence else l
    let l ← l.dropKey
    return { l.pushAt .dash l.cursor.next with keyAllowed := true }

/-- A question mark before a key. -/
def key (l : Layout) : Except ScanError Layout := do
  if l.level = 0 && !l.keyAllowed then malformed
  else
    let l := if l.level = 0 then l.openHere .blockMapping else l
    let l ← l.dropKey
    return { l.pushAt .key l.cursor.next with keyAllowed := l.level = 0 }

/-- A colon: what was remembered as a possible key is one. -/
def value (l : Layout) : Except ScanError Layout := do
  match l.keys.find? (·.level = l.level) with
  | some k =>
    let tokens := (l.tokens.toList.insertIdx k.position .key).toArray
    let l := { l with tokens, keys := l.keys.filter (·.level ≠ l.level) }
    let l := if l.level = 0 then l.openAt .blockMapping k.place.column k.position else l
    return { l.pushAt .value l.cursor.next with keyAllowed := false }
  | none =>
    if l.level = 0 && !l.keyAllowed then malformed
    else
      let l := if l.level = 0 then l.openHere .blockMapping else l
      let l ← l.dropKey
      return { l.pushAt .value l.cursor.next with keyAllowed := l.level = 0 }

/-- A token that may be a key or start one. -/
def keyLike (scan : Cursor → Except ScanError (Token × Cursor)) (l : Layout) : Except ScanError Layout := do
  let l ← l.saveKey
  let (t, cursor) ← scan l.cursor
  return { l.pushAt t cursor with keyAllowed := false }

/-- A block scalar. -/
def blockScalar (l : Layout) : Except ScanError Layout := do
  let l ← l.dropKey
  let (t, cursor) ← scanBlockScalar l.indent l.cursor
  return { l.pushAt t cursor with keyAllowed := true }

/-- A plain scalar. -/
def plain (l : Layout) : Except ScanError Layout := do
  let l ← l.saveKey
  let ((cs, fresh), cursor) := scanPlain (l.level ≠ 0) (l.indent + 1) (l.cursor.rest.length + 1) [] false l.cursor
  return { l.pushAt (.scalar (String.ofList cs) true) cursor with keyAllowed := fresh }

/-- Whether a plain scalar can start here. -/
def startsPlain (l : Layout) : Bool :=
  let d := l.cursor.peek
  let isIndicator := isGap d || "-?:,[]\x7b\x7d#&*!|>'\"%@\x60".toList.contains d
  !isIndicator || (!isGap (l.cursor.peekAt 1) && (d = '-' || (l.level = 0 && (d = '?' || d = ':'))))

/-- Reads the next token, with the tokens that indentation adds. -/
def step (l : Layout) : Except ScanError Layout := do
  let l := l.skipGaps (l.cursor.rest.length + 1)
  let l ← l.dropStaleKeys
  let l := l.unwind l.cursor.column
  let c := l.cursor
  let d := c.peek
  let apart := isGap (c.peekAt 1)
  if d = '\x00' then l.finish
  else if d = '%' && c.column = 0 then l.declaration
  else if d = '-' && c.column = 0 && c.atMark then l.mark .documentStart
  else if d = '.' && c.column = 0 && c.atMark then l.mark .documentEnd
  else if d = '[' then l.opening .openBracket
  else if d = '\x7b' then l.opening .openBrace
  else if d = ']' then l.closing .closeBracket
  else if d = '\x7d' then l.closing .closeBrace
  else if d = ',' then l.comma
  else if d = '-' && apart then l.dash
  else if d = '?' && (l.level ≠ 0 || apart) then l.key
  else if d = ':' && (l.level ≠ 0 || apart) then l.value
  else if d = '*' then l.keyLike fun c => (scanAnchor c).map fun (name, c) => (.alias name, c)
  else if d = '&' then l.keyLike fun c => (scanAnchor c).map fun (name, c) => (.anchor name, c)
  else if d = '!' then l.keyLike scanTag
  else if (d = '|' || d = '>') && l.level = 0 then l.blockScalar
  else if d = '\'' || d = '"' then l.keyLike scanQuotedScalar
  else if l.startsPlain then l.plain
  else malformed

/-- Reads tokens up to the end of the text or to a fault, which then is given too. -/
def run : Nat → Layout → Array Token × Option ScanError
  | 0, l => (l.tokens, some .malformed)
  | bound + 1, l =>
    match l.step with
    | .error e => (l.tokens, some e)
    | .ok l => if l.tokens.back? = some .streamEnd then (l.tokens, none) else run bound l

end Layout

/-- The tokens of a text, and the fault that ends them if the text has one. -/
def tokens (cs : List Char) : List Token × Option ScanError :=
  let cs := if cs.head? = some '\ufeff' then cs.tail else cs
  if cs.all isAllowed then
    let (tokens, fault) := Layout.run (cs.length + 2) { cursor := { rest := cs } }
    (tokens.toList, fault)
  else ([], some .malformed)

end PointOfFocus.Data.Yaml
