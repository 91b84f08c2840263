import PointOfFocus.Text.Digit
import PointOfFocus.Text.Escape
import PointOfFocus.Text.Lines
import PointOfFocus.Text.Replace

/-!
# Fragments of markup

The content of an element: text, elements, comments, instructions and passages in which nothing is markup. A
fragment is read only if it is well-formed: tags match, no attribute occurs twice, and every prefix of a name is
bound to a namespace. Writing gives one form to all fragments that differ only in the blanks inside their tags and in
the way characters are escaped.
-/

namespace PointOfFocus.Data.Xml

open PointOfFocus.Text

/-- A part of a fragment. -/
inductive Node where
  /-- Characters. -/
  | text (content : List Char)
  /-- Characters among which nothing is markup. -/
  | verbatim (content : List Char)
  /-- A comment. -/
  | comment (content : List Char)
  /-- An instruction: its target and the rest. -/
  | instruction (target content : List Char)
  /-- An element with its attributes and its content. -/
  | element (name : List Char) (attributes : List (List Char × List Char)) (content : List Node)
deriving Inhabited

/-! ### Characters -/

/-- Whether a fragment can have the character. -/
def isAllowed (c : Char) : Bool :=
  let n := c.toNat
  if n < 0x20 then c = '\t' || c = '\n' || c = '\r' else n ≠ 0xfffe && n ≠ 0xffff

/-- Whether the character separates the parts of a tag. -/
def isSpace (c : Char) : Bool :=
  c = ' ' || c = '\t' || c = '\n' || c = '\r'

/-- Whether a part of a name can start with the character. -/
def isNameStart (c : Char) : Bool :=
  c.isAlpha || c = '_' || (0xc0 ≤ c.toNat && c.toNat ≠ 0xd7 && c.toNat ≠ 0xf7 && c.toNat < 0x2000)
    || (0x3007 ≤ c.toNat && c.toNat < 0xd800)

/-- Whether the character can stand in a name. -/
def isNamePart (c : Char) : Bool :=
  isNameStart c || c.isDigit || c = '-' || c = '.' || c = '\xb7'

/-- A name without a prefix, and what follows it. -/
def takePlainName? : List Char → Option (List Char × List Char)
  | [] => none
  | c :: cs => if isNameStart c then some (c :: cs.takeWhile isNamePart, cs.dropWhile isNamePart) else none

/-- A name, which may have a prefix, and what follows it. -/
def takeName? (cs : List Char) : Option (List Char × List Char) := do
  let (first, rest) ← takePlainName? cs
  match rest with
  | ':' :: rest => do
    let (second, rest) ← takePlainName? rest
    if rest.head? = some ':' then none else return (first ++ ':' :: second, rest)
  | _ => return (first, rest)

/-- The prefix of a name and what follows the colon. -/
def splitPrefix (name : List Char) : List Char × List Char :=
  if name.contains ':' then (name.takeWhile (· ≠ ':'), (name.dropWhile (· ≠ ':')).drop 1) else ([], name)

/-- The text before the first occurrence of a mark, and what follows the mark. -/
def splitAt? (mark : List Char) : List Char → Option (List Char × List Char)
  | [] => none
  | c :: cs =>
    if mark.isPrefixOf (c :: cs) then some ([], (c :: cs).drop mark.length)
    else (splitAt? mark cs).map fun (before, after) => (c :: before, after)

/-! ### References -/

/-- The character that a reference names. -/
def namedCharacter? (name : String) : Option Char :=
  if name = "amp" then some '&'
  else if name = "lt" then some '<'
  else if name = "gt" then some '>'
  else if name = "quot" then some '"'
  else if name = "apos" then some '\''
  else none

/-- The number that the digits write in the base. -/
def number? (base : Nat) (cs : List Char) : Option Nat :=
  if cs.isEmpty then none
  else cs.foldlM (fun n c => (hexValue? c).bind fun d => if d < base then some (base * n + d) else none) 0

/-- The character that a reference stands for, given what is between its marks. -/
def referenced? (body : List Char) : Option Char :=
  match body with
  | '#' :: digits => do
    let n ← match digits with
      | 'x' :: hex => number? 16 hex
      | _ => number? 10 digits
    if n.isValidChar && isAllowed (Char.ofNat n) && n ≠ 0 then some (Char.ofNat n) else none
  | name => namedCharacter? (String.ofList name)

/-- A reference after its first mark: the character and what follows. -/
def takeReference? (cs : List Char) : Option (Char × List Char) := do
  let (body, rest) ← splitAt? [';'] cs
  return (← referenced? body, rest)

/-! ### Tags -/

/-- The value of an attribute up to its closing quote, with blanks made spaces, and what follows it. -/
def takeValue? (mark : Char) : Nat → List Char → Option (List Char × List Char)
  | 0, _ | _, [] => none
  | bound + 1, c :: cs => do
    if c = mark then return ([], cs)
    else if c = '<' || !isAllowed c then none
    else if c = '&' then
      let (d, cs) ← takeReference? cs
      let (value, rest) ← takeValue? mark bound cs
      return (d :: value, rest)
    else
      let (value, rest) ← takeValue? mark bound cs
      return ((if isSpace c then ' ' else c) :: value, rest)

/-- The attributes of a tag and what follows them. Blanks stand before each of them. -/
def takeAttributes? : Nat → List Char → Option (List (List Char × List Char) × List Char)
  | 0, _ => none
  | bound + 1, cs => do
    let body := cs.dropWhile isSpace
    match body with
    | c :: _ =>
      if c = '>' || c = '/' then return ([], body)
      else if body.length = cs.length then none
      else
        let (name, rest) ← takeName? body
        match rest.dropWhile isSpace with
        | '=' :: rest =>
          match rest.dropWhile isSpace with
          | mark :: rest =>
            if mark = '"' || mark = '\'' then
              let (value, rest) ← takeValue? mark (rest.length + 1) rest
              let (more, rest) ← takeAttributes? bound rest
              return ((name, value) :: more, rest)
            else none
          | [] => none
        | _ => none
    | [] => none

/-! ### Namespaces -/

/-- The namespaces that prefixes are bound to. -/
abbrev Bindings := List (List Char × List Char)

/-- The namespace of the prefix `xml`. -/
def xmlNamespace : List Char := "http://www.w3.org/XML/1998/namespace".toList

/-- The namespace of the prefix `xmlns`. -/
def xmlnsNamespace : List Char := "http://www.w3.org/2000/xmlns/".toList

/-- The prefix that an attribute binds, the empty one for elements without a prefix. -/
def boundPrefix? (name : List Char) : Option (List Char) :=
  if name = "xmlns".toList then some []
  else if (splitPrefix name).1 = "xmlns".toList then some (splitPrefix name).2
  else none

/-- Whether a prefix may be bound to a namespace. -/
def isBindable (label namespaceName : List Char) : Bool :=
  if namespaceName.contains ' ' then false
  else if label = "xml".toList then namespaceName = xmlNamespace
  else label ≠ "xmlns".toList && namespaceName ≠ xmlNamespace && namespaceName ≠ xmlnsNamespace
    && (label = [] || namespaceName ≠ [])

/-- The expanded form of a name with a prefix: its namespace and the rest. -/
def expanded? (bindings : Bindings) (name : List Char) : Option (List Char × List Char) :=
  let (label, rest) := splitPrefix name
  if label = [] then some ([], rest)
  else (bindings.find? (·.1 = label)).map fun binding => (binding.2, rest)

/-- The bindings inside an element and its attributes with the bindings in front, unless the names of the element are
faulty. -/
def resolve? (outer : Bindings) (name : List Char) (attributes : List (List Char × List Char)) :
    Option (Bindings × List (List Char × List Char)) := do
  let own := attributes.filterMap fun (key, value) => (boundPrefix? key).map (·, value)
  let others := attributes.filter fun (key, _) => (boundPrefix? key).isNone
  let inner := own ++ outer
  let _ ← expanded? inner name
  let names ← others.mapM fun (key, _) => expanded? inner key
  if (attributes.map (·.1)).Nodup && names.Nodup && own.all (fun (label, value) => isBindable label value)
      && (splitPrefix name).1 ≠ "xmlns".toList then
    return (inner, attributes.filter (fun (key, _) => (boundPrefix? key).isSome) ++ others)
  else none

/-! ### Reading -/

/-- Adds a character in front of a fragment. -/
def consChar (c : Char) : List Node → List Node
  | .text content :: nodes => .text (c :: content) :: nodes
  | nodes => .text [c] :: nodes

/-- Adds characters without markup in front of a fragment, unless there are none. -/
def consVerbatim (content : List Char) (nodes : List Node) : List Node :=
  if content.isEmpty then nodes else .verbatim content :: nodes

/-- A comment after its first mark. -/
def takeComment? (cs : List Char) : Option (List Char × List Char) := do
  let (content, rest) ← splitAt? ['-', '-'] cs
  match rest with
  | '>' :: rest => if content.all isAllowed then some (content, rest) else none
  | _ => none

/-- An instruction after its first mark. -/
def takeInstruction? (cs : List Char) : Option ((List Char × List Char) × List Char) := do
  let (target, rest) ← takePlainName? cs
  let (content, after) ← splitAt? ['?', '>'] rest
  let separated := content.isEmpty || (content.head?.map isSpace).getD false
  if separated && content.all isAllowed && target.map Char.toLower ≠ "xml".toList then
    return ((target, content.dropWhile isSpace), after)
  else none

/-- The content of an element up to the end tag of the given name, or of the whole fragment, and what follows. -/
def takeContent? : Nat → Bindings → Option (List Char) → List Char → Option (List Node × List Char)
  | 0, _, _, _ => none
  | _ + 1, _, opened, [] => if opened.isNone then some ([], []) else none
  | _ + 1, _, opened, '<' :: '/' :: cs => do
    let (name, rest) ← takeName? cs
    match rest.dropWhile isSpace with
    | '>' :: rest => if opened = some name then some ([], rest) else none
    | _ => none
  | bound + 1, bindings, opened, '<' :: '!' :: '-' :: '-' :: cs => do
    let (content, rest) ← takeComment? cs
    let (nodes, rest) ← takeContent? bound bindings opened rest
    return (.comment content :: nodes, rest)
  | bound + 1, bindings, opened, '<' :: '!' :: cs => do
    if !"[CDATA[".toList.isPrefixOf cs then none
    let (content, rest) ← splitAt? "]]>".toList (cs.drop 7)
    if !content.all isAllowed then none
    let (nodes, rest) ← takeContent? bound bindings opened rest
    return (consVerbatim content nodes, rest)
  | bound + 1, bindings, opened, '<' :: '?' :: cs => do
    let ((target, content), rest) ← takeInstruction? cs
    let (nodes, rest) ← takeContent? bound bindings opened rest
    return (.instruction target content :: nodes, rest)
  | bound + 1, bindings, opened, '<' :: cs => do
    let (name, rest) ← takeName? cs
    let (attributes, rest) ← takeAttributes? (rest.length + 1) rest
    let (inner, attributes) ← resolve? bindings name attributes
    let (content, rest) ← match rest with
      | '/' :: '>' :: rest => some ([], rest)
      | '>' :: rest => takeContent? bound inner (some name) rest
      | _ => none
    let (nodes, rest) ← takeContent? bound bindings opened rest
    return (.element name attributes content :: nodes, rest)
  | bound + 1, bindings, opened, '&' :: cs => do
    let (c, rest) ← takeReference? cs
    let (nodes, rest) ← takeContent? bound bindings opened rest
    return (consChar c nodes, rest)
  | bound + 1, bindings, opened, c :: cs => do
    if !isAllowed c || "]]>".toList.isPrefixOf (c :: cs) then none
    let (nodes, rest) ← takeContent? bound bindings opened cs
    return (consChar c nodes, rest)

/-- Reads a fragment. -/
def read? (text : String) : Option (List Node) :=
  let cs := uniformLines text.toList
  (takeContent? (cs.length + 1) [("xml".toList, xmlNamespace)] none cs).map (·.1)

/-! ### Writing -/

/-- A character as it stands in text and in the value of an attribute. -/
def writeChar (c : Char) : List Char :=
  if c = '&' then "&amp;".toList
  else if c = '<' then "&lt;".toList
  else if c = '>' then "&gt;".toList
  else if c = '"' then "&quot;".toList
  else [c]

/-- An attribute as it stands in a tag. -/
def writeAttribute (entry : List Char × List Char) : List Char :=
  ' ' :: entry.1 ++ ['=', '"'] ++ entry.2.flatMap writeChar ++ ['"']

mutual

/-- A part of a fragment as text. -/
def writeNode : Node → List Char
  | .text content => content.flatMap writeChar
  | .verbatim content => "<![CDATA[".toList ++ content ++ "]]>".toList
  | .comment content => "<!--".toList ++ content ++ "-->".toList
  | .instruction target content => "<?".toList ++ target ++ ' ' :: content ++ "?>".toList
  | .element name attributes [] => '<' :: name ++ attributes.flatMap writeAttribute ++ "/>".toList
  | .element name attributes content =>
    '<' :: name ++ attributes.flatMap writeAttribute ++ '>' :: writeNodes content ++ "</".toList ++ name ++ ['>']

/-- A fragment as text. -/
def writeNodes : List Node → List Char
  | [] => []
  | node :: nodes => writeNode node ++ writeNodes nodes

end

end PointOfFocus.Data.Xml
