import PointOfFocus.Query.Validity.Grammar

/-!
# Valid queries

Whether a text is a query of the query language, whose prefixed names all have a declared label or one that is known
everywhere. The point of focus is no part of the language: its marker is read as the sign for less than.

Numeric escapes are replaced first, wherever they stand, so a quote may come out of one and end a text.
-/

namespace PointOfFocus.Query.Validity

open PointOfFocus.Text

/-! ### Numeric escapes -/

/-- The number of the escape whose backslash stands before the text, and how many characters follow the backslash: the
letter in either case and eight digits, or four if there are not so many. -/
def escape? : List Char → Option (Nat × Nat)
  | 'u' :: cs | 'U' :: cs => (hexNumber? 8 cs).map (·, 9) <|> (hexNumber? 4 cs).map (·, 5)
  | _ => none

/-- The character with the given number, if there is one. A number in the surrogate range stands for a character that
belongs to no name, as those for private use do. -/
def character? (n : Nat) : Option Char :=
  if 0x110000 ≤ n then none else if n.isValidChar then some (Char.ofNat n) else some '\ue000'

/-- The text with its numeric escapes replaced, after `skip` characters that belong to an escape already read. -/
def expand? : Nat → List Char → Option (List Char)
  | _, [] => some []
  | skip + 1, _ :: cs => expand? skip cs
  | 0, c :: cs =>
    match if c = '\\' then escape? cs else none with
    | some (n, width) => do return (← character? n) :: (← expand? width cs)
    | none => (expand? 0 cs).map (c :: ·)

/-! ### Declarations -/

/-- The labels at hand, with the IRIs for which they were declared. -/
abbrev Labels := List (String × Option (List Char))

/-- The labels that are known without a declaration. -/
def knownLabels : Labels :=
  ["owl", "rdf", "rdfs", "xsd", "xml", "brick", "csvw", "dc", "dcat", "dcmitype", "dcterms", "dcam", "doap", "foaf",
    "geo", "odrl", "org", "prof", "prov", "qb", "schema", "sh", "skos", "sosa", "ssn", "time", "vann", "void",
    "wgs"].map (·, none)

/-- Declares a label. An IRI has one label only, so a label that was declared for the same IRI is gone. -/
def Labels.declare (labels : Labels) (label : String) (iri : List Char) : Labels :=
  (label, some iri) :: labels.filter fun known => known.1 ≠ label && known.2 ≠ some iri

/-- Whether the label is at hand. -/
def Labels.has (labels : Labels) (label : String) : Bool := labels.any (·.1 = label)

/-- Reads a declaration. -/
def declaration? (labels : Labels) (s : Place) : Option (Labels × Place) :=
  let base := do
    let (_, s) ← s.read (.keyword "BASE")
    let (_, s) ← s.read .iri
    return (labels, s)
  let label := do
    let (_, s) ← s.read (.keyword "PREFIX")
    let (name, s) ← s.read .label
    let (iri, s) ← s.read .iri
    return (labels.declare (String.ofList name.dropLast) iri, s)
  base <|> label

/-- Reads at most as many declarations as the bound says. -/
def declarations : Nat → Labels → Place → Labels × Place
  | 0, labels, s => (labels, s)
  | bound + 1, labels, s =>
    match declaration? labels s with
    | some (labels, s) => declarations bound labels s
    | none => (labels, s)

/-! ### Queries -/

/-- A bound on the depth of the patterns in a text of the given length. -/
def depth (length : Nat) : Nat := 100 * (length + 1)

/-- Whether the text is a valid query. -/
def isValid (text : List Char) : Bool :=
  match expand? 0 text with
  | none => false
  | some cs =>
    let (labels, start) := declarations cs.length knownLabels { ahead := cs }
    match Pattern.after? Part.pattern (depth cs.length) (.part .query) start with
    | none => false
    | some s => s.afterGap.ahead.isEmpty && s.labels.all labels.has

end PointOfFocus.Query.Validity
