import PointOfFocus.Query.Stream

/-!
# Names, literals and the point of focus

The terms that are written with a few tokens and hold no other terms.
-/

namespace PointOfFocus.Query

open PointOfFocus.Rdf
open PointOfFocus.Text

/-- The text without its first and last `width` characters. -/
def unwrap (width : Nat) (text : String) : String :=
  String.ofList ((text.toList.drop width).take (text.length - 2 * width))

/-- The text without its first characters. -/
def dropFirst (width : Nat) (text : String) : String :=
  String.ofList (text.toList.drop width)

/-- The IRI that the label of the token stands for. -/
def resolve (label : String) (t : Token) : Parser String := do
  match (← get).scope.prefixIri? label with
  | some iri => return iri
  | none => failAt t (.unresolvedPrefix label)

/-- The IRI of a prefixed name. -/
def resolveName (t : Token) : Parser String := do
  let (label, part) := splitName t.text
  return (← resolve label t) ++ part

/-- Takes a token for an IRI in angle brackets. -/
def expectIri (what : String) : Parser String :=
  return unwrap 1 (← expect .iri what).text

/-- The number of quotes on either side of a quoted text. -/
def quoteWidth (text : String) : Nat :=
  if ['"', '"', '"'].isPrefixOf text.toList || ['\'', '\'', '\''].isPrefixOf text.toList then 3 else 1

/-- The text that a quoted text stands for. -/
def quotedText (text : String) : Except EscapeError String := do
  return String.ofList (← unescape (unwrap (quoteWidth text) text).toList)

/-- The datatype after its mark. -/
def datatypeIri : Parser String := do
  match (← token).kind with
  | .iri => return unwrap 1 (← advance).text
  | .prefixedName => resolveName (← advance)
  | _ => fail .missingDatatype

/-- A quoted text with the language or the datatype that may follow it. -/
def textLiteral : Parser Literal := do
  match quotedText (← advance).text with
  | .error e => throw (.escape e)
  | .ok lexical =>
    match (← token).kind with
    | .language => return ⟨lexical, .language (dropFirst 1 (← advance).text)⟩
    | .datatypeMark =>
      let _ ← advance
      return .typed lexical (← datatypeIri)
    | _ => return .plain lexical

/-- The datatype of a number by the kind of its token. -/
def numberType? : Kind → Option String
  | .integer => some (datatype "integer")
  | .decimal => some (datatype "decimal")
  | .double => some (datatype "double")
  | _ => none

/-- A number after the given sign. -/
def unsignedNumber (sign : String) : Parser Literal := do
  match numberType? (← token).kind with
  | some type => return .typed (sign ++ (← advance).text) type
  | none => fail (.missingNumber sign)

/-- A number with the sign that may precede it. -/
def number : Parser Literal := do
  if (← atSymbol .plus) || (← atSymbol .minus) then unsignedNumber (← advance).text
  else unsignedNumber ""

/-- Takes the point of focus into the scope with its hint. -/
def pointOfFocus (role : Role) : Parser Term := do
  let t ← advance
  if (← get).focus.isSome then failAt t .secondFocus
  modify fun s => { s with focus := some ⟨t, role⟩ }
  match t.kind with
  | .focus (.pathLength length) =>
    if role ≠ .predicate then failAt t .misplacedPathLength
    if length < 1 then failAt t .zeroPathLength
    collect (Scope.setPathLength length)
  | .focus (.nameStart label part) =>
    let iri ← resolve label t
    collect (Scope.setIriStart (iri ++ part))
  | .focus (.keyword word) => collect (Scope.setKeyword word)
  | _ => pure ()
  return .focus

/-- Whether the token is a truth value. -/
def Token.isTruth (t : Token) : Bool :=
  t.kind = .word && (["true".toList, "false".toList].contains (t.text.toList.map Char.toLower))

/-- A term that is neither a blank node in brackets nor a collection. -/
def simpleTerm (role : Role) : Parser Term := do
  let t ← token
  match t.kind with
  | .focus _ => pointOfFocus role
  | .var => return .var (dropFirst 1 (← advance).text)
  | .iri => return .iri (unwrap 1 (← advance).text)
  | .prefixedName => return .iri (← resolveName (← advance))
  | .blank => return .blank (dropFirst 2 (← advance).text)
  | .string => return .literal (← textLiteral)
  | .integer | .decimal | .double | .symbol .plus | .symbol .minus => return .literal (← number)
  | _ =>
    if t.isTruth then
      let word := String.ofList ((← advance).text.toList.map Char.toLower)
      return .literal (.typed word (datatype "boolean"))
    else fail (.expected ("a " ++ role.text) t)

end PointOfFocus.Query
