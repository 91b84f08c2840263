import PointOfFocus.Query.Validity.Pattern

/-!
# The grammar of queries

The parts of a query without its declarations, each with its pattern. Where two patterns of a choice start alike, the
longer one comes first, since a choice is final.
-/

namespace PointOfFocus.Query.Validity

/-- A part of a query. Triples come with property paths, in groups, or without, in the triples of an answer. -/
inductive Part where
  /-- A query that is not part of another. -/
  | query
  /-- A select query inside a group. -/
  | inner
  /-- What a select query gives. -/
  | projection
  /-- The graphs that a query is about. -/
  | sources
  /-- A group with the keyword that may precede it. -/
  | condition
  /-- Grouping, order and limits of the answers. -/
  | modifiers
  /-- The values at the end of a query. -/
  | lastValues
  /-- A group in braces. -/
  | group
  /-- An element of a group that has no triples of its own. -/
  | element
  /-- The variables and rows of a values clause. -/
  | block
  /-- Triples with dots between them. -/
  | triples (paths : Bool)
  /-- Triples with the same subject. -/
  | sameSubject (paths : Bool)
  /-- Predicates with their objects. -/
  | properties (paths : Bool)
  /-- A predicate. -/
  | verb (paths : Bool)
  /-- A subject or an object. -/
  | node (paths : Bool)
  /-- A node that has triples of its own. -/
  | filledNode (paths : Bool)
  /-- A variable or a term. -/
  | simpleNode
  /-- A property path. -/
  | path
  /-- Steps of a path one after the other. -/
  | pathSequence
  /-- A step of a path, in either direction. -/
  | pathStep
  /-- A path that is not taken apart by operators. -/
  | pathPrimary
  /-- One of the properties that a path must not take. -/
  | excluded
  /-- An IRI or a prefixed name. -/
  | iri
  /-- A text with its language or datatype. -/
  | literal
  /-- A truth value. -/
  | boolean
  /-- An expression. -/
  | expression
  /-- Operands of an or. -/
  | conjunction
  /-- Operands of an and. -/
  | relation
  /-- Operands of a comparison. -/
  | sum
  /-- Operands of a sum. -/
  | product
  /-- Operands of a product. -/
  | unary
  /-- An expression that is not taken apart by operators. -/
  | primary
  /-- An expression in parentheses. -/
  | bracketed
  /-- A call of a function that has a name of its own. -/
  | builtIn
  /-- Expressions in parentheses. -/
  | expressions
  /-- The arguments of a function that has an IRI. -/
  | arguments
  /-- A call of a function that has an IRI. -/
  | call
  /-- A condition that stands without parentheses only if it is a call. -/
  | constraint

namespace Part

/-! ### Building patterns -/

/-- A sign. -/
def sign (mark : String) : Pattern Part := .terminal (.sign mark)

/-- A keyword. -/
def word (keyword : String) : Pattern Part := .terminal (.keyword keyword)

/-- One of some keywords. -/
def words (keywords : List String) : Pattern Part := .choice (keywords.map word)

/-- A variable. -/
def var : Pattern Part := .terminal .var

/-- A pattern at least once. -/
def atLeastOne (p : Pattern Part) : Pattern Part := .sequence [p, .many p]

/-- A pattern at least once, with separators in between. -/
def separated (separator p : Pattern Part) : Pattern Part := .sequence [p, .many (.sequence [separator, p])]

/-- A pattern in parentheses. -/
def parenthesized (p : Pattern Part) : Pattern Part := .sequence [sign "(", p, sign ")"]

/-- A pattern in braces. -/
def braced (p : Pattern Part) : Pattern Part := .sequence [sign "\x7b", p, sign "\x7d"]

/-- Empty parentheses. -/
def nothing : Pattern Part := .sequence [sign "(", sign ")"]

/-- A function of the given names with one pattern for each argument. -/
def function (names : List String) (arguments : List (Pattern Part)) : Pattern Part :=
  .sequence [words names, parenthesized (.sequence (arguments.intersperse (sign ",")))]

/-- A function that takes as many expressions as the number says, or one more. -/
def functionUpTo (name : String) (least : Nat) : Pattern Part :=
  .sequence [word name, parenthesized (.sequence
    [.sequence ((List.replicate least (.part expression)).intersperse (sign ",")),
      .optional (.sequence [sign ",", .part expression])])]

/-- The name that an expression gets. -/
def named : Pattern Part := .sequence [word "AS", var]

/-- The keyword that leaves out repetitions. -/
def distinct : Pattern Part := .optional (word "DISTINCT")

/-! ### Functions -/

/-- The functions of one argument. -/
def unaryNames : List String :=
  ["STR", "LANG", "DATATYPE", "IRI", "URI", "ABS", "CEIL", "FLOOR", "ROUND", "STRLEN", "UCASE", "LCASE",
    "ENCODE_FOR_URI", "YEAR", "MONTH", "DAY", "HOURS", "MINUTES", "SECONDS", "TIMEZONE", "TZ", "MD5", "SHA1", "SHA256",
    "SHA384", "SHA512", "ISIRI", "ISURI", "ISBLANK", "ISLITERAL", "ISNUMERIC"]

/-- The functions of two arguments. -/
def binaryNames : List String :=
  ["LANGMATCHES", "CONTAINS", "STRSTARTS", "STRENDS", "STRBEFORE", "STRAFTER", "STRLANG", "STRDT", "SAMETERM"]

/-- The functions that put many values together. -/
def aggregates : List (Pattern Part) :=
  [.sequence [word "COUNT", parenthesized (.sequence [distinct, .choice [sign "*", .part expression]])],
    .sequence [words ["SUM", "MIN", "MAX", "AVG", "SAMPLE"], parenthesized (.sequence [distinct, .part expression])],
    .sequence [word "GROUP_CONCAT", parenthesized (.sequence [distinct, .part expression,
      .optional (.sequence [sign ";", word "SEPARATOR", sign "=", .terminal .text])])]]

/-- The calls of functions that have a name of their own. -/
def builtIns : List (Pattern Part) :=
  aggregates ++
    [function unaryNames [.part expression],
      function binaryNames [.part expression, .part expression],
      function ["IF"] [.part expression, .part expression, .part expression],
      function ["BOUND"] [var],
      .sequence [words ["RAND", "NOW", "UUID", "STRUUID"], nothing],
      .sequence [word "BNODE", .choice [parenthesized (.part expression), nothing]],
      .sequence [words ["CONCAT", "COALESCE"], .part expressions],
      functionUpTo "REGEX" 2, functionUpTo "SUBSTR" 2, functionUpTo "REPLACE" 3,
      .sequence [.optional (word "NOT"), word "EXISTS", .part group]]

/-! ### Queries -/

/-- The triples of an answer in braces. -/
def answerTriples : Pattern Part := braced (.optional (.part (.triples false)))

/-- The limits of the answers, in either order. -/
def slice : Pattern Part :=
  let limit := .sequence [word "LIMIT", .terminal .integer]
  let offset := .sequence [word "OFFSET", .terminal .integer]
  .choice [.sequence [limit, .optional offset], .sequence [offset, .optional limit]]

/-- The parts that follow the subject of a query. -/
def queryEnd : List (Pattern Part) := [.part condition, .part modifiers, .part lastValues]

/-- The forms of a query. -/
def forms : List (Pattern Part) :=
  [.sequence (.part projection :: .part sources :: queryEnd),
    .sequence [word "CONSTRUCT", .choice
      [.sequence (answerTriples :: .part sources :: queryEnd),
        .sequence [.part sources, word "WHERE", answerTriples, .part modifiers, .part lastValues]]],
    .sequence [word "DESCRIBE", .choice [atLeastOne (.choice [var, .part iri]), sign "*"], .part sources,
      .optional (.part condition), .part modifiers, .part lastValues],
    .sequence (word "ASK" :: .part sources :: queryEnd)]

/-- The value of a variable in a values clause. -/
def datum : Pattern Part :=
  .choice [.part iri, .part literal, .terminal .number, .part boolean, word "UNDEF"]

/-- The pattern of a part. -/
def pattern : Part → Pattern Part
  | query => .choice forms
  | inner => .sequence (.part projection :: queryEnd)
  | projection =>
    .sequence [word "SELECT", .optional (words ["DISTINCT", "REDUCED"]),
      .choice [atLeastOne (.choice [var, parenthesized (.sequence [.part expression, named])]), sign "*"]]
  | sources => .many (.sequence [word "FROM", .choice [.part iri, .sequence [word "NAMED", .part iri]]])
  | condition => .sequence [.optional (word "WHERE"), .part group]
  | modifiers =>
    .sequence [
      .optional (.sequence [word "GROUP", word "BY", atLeastOne (.choice [.part builtIn, .part call,
        parenthesized (.sequence [.part expression, .optional named]), var])]),
      .optional (.sequence [word "HAVING", atLeastOne (.part constraint)]),
      .optional (.sequence [word "ORDER", word "BY", atLeastOne (.choice
        [.sequence [words ["ASC", "DESC"], .part bracketed], .part constraint, var])]),
      .optional slice]
  | lastValues => .optional (.sequence [word "VALUES", .part block])
  | group =>
    braced (.choice [.part inner, .sequence [.optional (.part (.triples true)),
      .many (.sequence [.part element, .optional (sign "."), .optional (.part (.triples true))])]])
  | element =>
    .choice [separated (word "UNION") (.part group),
      .sequence [words ["OPTIONAL", "MINUS"], .part group],
      .sequence [word "GRAPH", .choice [var, .part iri], .part group],
      .sequence [word "SERVICE", .optional (word "SILENT"), .choice [var, .part iri], .part group],
      .sequence [word "FILTER", .part constraint],
      .sequence [word "BIND", parenthesized (.sequence [.part expression, named])],
      .sequence [word "VALUES", .part block]]
  | block =>
    .choice [.sequence [var, braced (.many datum)],
      .sequence [parenthesized (.many var), braced (.many (parenthesized (.many datum)))]]
  | triples paths =>
    .sequence [.part (.sameSubject paths), .many (.sequence [sign ".", .optional (.part (.sameSubject paths))])]
  | sameSubject paths =>
    .choice [.sequence [.part simpleNode, .part (.properties paths)],
      .sequence [.part (.filledNode paths), .optional (.part (.properties paths))]]
  | properties paths =>
    let pair := .sequence [.part (.verb paths), separated (sign ",") (.part (.node paths))]
    .sequence [pair, .many (.sequence [sign ";", .optional pair])]
  | verb true => .choice [.part path, var]
  | verb false => .choice [var, .part iri, sign "a"]
  | node paths => .choice [.part simpleNode, .part (.filledNode paths)]
  | filledNode paths =>
    .choice [parenthesized (atLeastOne (.part (.node paths))),
      .sequence [sign "[", .part (.properties paths), sign "]"]]
  | simpleNode =>
    .choice [var, .part iri, .part literal, .terminal .number, .part boolean, .terminal .blankNode,
      .sequence [sign "[", sign "]"], nothing]
  | path => separated (sign "|") (.part pathSequence)
  | pathSequence => separated (sign "/") (.part pathStep)
  | pathStep =>
    .sequence [.optional (sign "^"), .part pathPrimary,
      .optional (.choice [.attached (.sign "?"), .attached (.sign "*"), .attached (.sign "+")])]
  | pathPrimary =>
    .choice [.part iri, sign "a",
      .sequence [sign "!", .choice [.part excluded, parenthesized (separated (sign "|") (.part excluded))]],
      parenthesized (.part path)]
  | excluded => .sequence [.optional (sign "^"), .choice [.part iri, sign "a"]]
  | iri => .choice [.terminal .iri, .terminal .prefixed]
  | literal =>
    .sequence [.terminal .text, .optional (.choice [.attached .language,
      .sequence [.attached (.sign "^^"), .choice [.attached .iri, .attached .prefixed]]])]
  | boolean => words ["TRUE", "FALSE"]
  | expression => separated (sign "||") (.part conjunction)
  | conjunction => separated (sign "&&") (.part relation)
  | relation =>
    .sequence [.part sum, .optional (.choice
      ((["=", "!=", "<", ">", "<=", ">="].map fun mark => .sequence [sign mark, .part sum])
        ++ [.sequence [.optional (word "NOT"), word "IN", .part expressions]]))]
  | sum => separated (.choice [sign "+", sign "-"]) (.part product)
  | product => separated (.choice [sign "*", sign "/"]) (.part unary)
  | unary =>
    .choice ((["!", "+", "-"].map fun mark => .sequence [sign mark, .part primary]) ++ [.part primary])
  | primary =>
    .choice [.part bracketed, .part builtIn, .part call, .part iri, .part literal, .terminal .number, .part boolean,
      var]
  | bracketed => parenthesized (.part expression)
  | builtIn => .choice builtIns
  | expressions => .choice [nothing, parenthesized (separated (sign ",") (.part expression))]
  | arguments =>
    .choice [nothing, parenthesized (.sequence [distinct, separated (sign ",") (.part expression)])]
  | call => .sequence [.part iri, .part arguments]
  | constraint => .choice [.part bracketed, .part builtIn, .part call]

end Part

end PointOfFocus.Query.Validity
