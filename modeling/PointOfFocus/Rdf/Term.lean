import PointOfFocus.Rdf.Literal
import PointOfFocus.Text.Word

/-!
# Terms

What stands in a triple pattern: a variable, a blank node, a literal, an IRI, or a property path. A path leads along
several terms in turn, along one of several terms, or along a term backwards; sequences of sequences and alternatives
of alternatives are flattened where they are built. One variable is reserved: it marks the point of focus, the place in
the query for which recommendations are sought.
-/

namespace PointOfFocus.Rdf

open PointOfFocus.Number (integerText)
open PointOfFocus.Text (isWord)

/-- A term of a triple pattern. -/
inductive Term where
  /-- A variable. -/
  | var (name : String)
  /-- A blank node. -/
  | blank (label : String)
  /-- A literal. -/
  | literal (value : Literal)
  /-- An IRI. -/
  | iri (name : String)
  /-- One term after the other. -/
  | sequence (steps : List Term)
  /-- Any one of the terms. -/
  | alternative (branches : List Term)
  /-- The term walked backwards. -/
  | inverse (path : Term)
deriving Inhabited

/-- Why a term cannot be built or written. -/
inductive TermError where
  /-- A variable needs a name. -/
  | emptyVariable
  /-- A literal has a language or a datatype, not both. -/
  | twoQualifiers
  /-- The text is no language tag. -/
  | badLanguage (tag : String)
  /-- The IRI cannot be written. -/
  | invalidIri (iri : String)
deriving DecidableEq

/-- The wording of the fault. -/
def TermError.message : TermError → String
  | .emptyVariable => "Attempted to create variable with empty string as name!"
  | .twoQualifiers =>
    "A Literal can only have one of lang or datatype, per http://www.w3.org/TR/rdf-concepts/#section-Graph-Literal"
  | .badLanguage tag => "'" ++ tag ++ "' is not a valid language tag!"
  | .invalidIri iri =>
    "\"" ++ iri ++ "\" does not look like a valid URI, I cannot serialize this as N3/Turtle. "
      ++ "Perhaps you wanted to urlencode it?"

/-- A literal from its parts; an empty language tag is none. -/
def Literal.build (lexical : String) (language datatype : Option String) : Except TermError Literal :=
  let language := if language = some "" then none else language
  match language, datatype with
  | some _, some _ => .error .twoQualifiers
  | some tag, none => if isLanguageTag tag then .ok ⟨lexical, .language tag⟩ else .error (.badLanguage tag)
  | none, some iri => .ok (.typed lexical iri)
  | none, none => .ok (.plain lexical)

/-- The characters that no written IRI has. -/
def forbiddenInIri : List Char :=
  ['<', '>', '"', ' ', '\x7b', '\x7d', '|', '\\', '^', '\x60']

/-- Whether the IRI can be written. -/
def isWritableIri (iri : String) : Bool :=
  iri.toList.all fun c => !forbiddenInIri.contains c

/-- An IRI in angle brackets. -/
def renderIri (iri : String) : Except TermError String :=
  if isWritableIri iri then .ok ("<" ++ iri ++ ">") else .error (.invalidIri iri)

namespace Term

/-- The name of a variable without the question mark that may introduce it. -/
def bareName (name : String) : String :=
  match name.toList with
  | '?' :: cs => String.ofList cs
  | _ => name

/-- The variable with the given name, which a question mark may introduce. -/
def named (name : String) : Term := .var (bareName name)

/-- The variable with the given name, if the name is not empty. -/
def ofName (name : String) : Except TermError Term :=
  if name = "" then .error .emptyVariable else .ok (named name)

/-! ### Terms with a role -/

/-- The variable that marks the point of focus. -/
def focus : Term := .var "POF"

/-- The object of a predicate that is written without one. -/
def filler : Term := .var "FillVar"

/-- The variable of the hop with the given number on a path of several predicates. -/
def hop (number : Int) : Term := .var ("POF" ++ integerText number)

/-- The type predicate. -/
def type : Term := .iri typeIri

/-- Whether the term marks the point of focus. -/
def isFocus : Term → Bool
  | .var name => name = "POF"
  | _ => false

/-- Whether the term is the type predicate. -/
def isType : Term → Bool
  | .iri name => name = typeIri
  | _ => false

/-! ### Paths -/

/-- The steps of a term, as part of a sequence. -/
def steps : Term → List Term
  | .sequence ts => ts
  | t => [t]

/-- The branches of a term, as part of an alternative. -/
def branches : Term → List Term
  | .alternative ts => ts
  | t => [t]

/-- The sequence of the terms. -/
def sequenceOf (ts : List Term) : Term :=
  .sequence (ts.flatMap steps)

/-- The alternative of the terms. -/
def alternativeOf (ts : List Term) : Term :=
  .alternative (ts.flatMap branches)

/-- Whether the term needs parentheses as a part of a path. -/
def isCompound : Term → Bool
  | .sequence ts => 1 < ts.length
  | .alternative ts => 1 < ts.length
  | _ => false

/-- Whether the term is a path of one or more terms. -/
def isPath : Term → Bool
  | .sequence _ | .alternative _ | .inverse _ => true
  | _ => false

/-- A term's written form as it stands in a path. -/
def parenthesize (t : Term) (written : String) : String :=
  if t.isCompound then "(" ++ written ++ ")" else written

/-! ### Written form -/

mutual

/-- The term as a query writes it. -/
def render : Term → Except TermError String
  | .var name => .ok ("?" ++ name)
  | .blank label => .ok ("_:" ++ label)
  | .literal value => .ok value.render
  | .iri name => renderIri name
  | .sequence ts => do return "/".intercalate (← renderParts ts)
  | .alternative ts => do return "|".intercalate (← renderParts ts)
  | .inverse t => do return "^" ++ t.parenthesize (← t.render)

/-- The parts of a path as a query writes them. -/
def renderParts : List Term → Except TermError (List String)
  | [] => .ok []
  | t :: ts => do
    let written ← t.render
    return t.parenthesize written :: (← renderParts ts)

end

/-- The term as a query writes it in the place of a predicate: the type predicate has a short form. -/
def renderPredicate (t : Term) : Except TermError String :=
  if t.isType then .ok "a" else t.render

/-- The text by which terms are told apart. -/
def key (t : Term) : Except TermError String :=
  if t.isType then .ok "a" else t.render

mutual

/-- The bare text of the term. -/
def text : Term → String
  | .var name => name
  | .blank label => label
  | .literal value => value.lexical
  | .iri name => name
  | .sequence ts => "Path(" ++ " / ".intercalate (textParts ts) ++ ")"
  | .alternative ts => "Path(" ++ " | ".intercalate (textParts ts) ++ ")"
  | .inverse t => "Path(~" ++ t.text ++ ")"

/-- The bare texts of the parts of a path. -/
def textParts : List Term → List String
  | [] => []
  | t :: ts => t.text :: textParts ts

end

/-- A name made from the term: a variable's own, else the word characters of its text. -/
def name : Term → String
  | .var name => name
  | t => String.ofList (t.text.toList.filter isWord)

end Term

end PointOfFocus.Rdf
