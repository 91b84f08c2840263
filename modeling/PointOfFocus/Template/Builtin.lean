import PointOfFocus.Template.Check

/-!
# The templates at hand

The recommendation query lists the distinct terms at the point of focus. The counting query adds how often each
occurs together with the rest of the query, and the popularity query how often each of some given candidates
occurs at all.
-/

namespace PointOfFocus.Template

/-- Prints the value of a name. -/
private def printName (name : String) : Node := .print (.name name)

/-- Prints a part of the value of a name. -/
private def printMember (name part : String) : Node := .print (.member (.name name) part)

/-- One line for each triple pattern. -/
def patternLines : Node :=
  .loop (.name "tp") (.name "tps") none
    [.text "  ", printMember "tp" "s", .text " ", printMember "tp" "p", .text " ", printMember "tp" "o", .text " .\n"]
    [] 1

/-- A line with a text made from the value of a name, if there is a value. -/
def filterLine (before name after : String) : Node :=
  .branch (.name name) [.text before, .print (.filter (.name name) .queryText []), .text after] []

/-- The line that keeps only terms with the keyword. -/
def keywordFilter : Node := filterLine "  FILTER regex(?POF, \"" "keyword" "\", \"i\")\n"

/-- The line that keeps only terms with the right start. -/
def startFilter : Node := filterLine "  FILTER strstarts(str(?POF), \"" "prefix" "\")\n"

/-- The line that names the graph, if there is one. -/
def graphLine : Node := .branch (.name "graph") [.text "FROM <", printName "graph", .text ">\n"] []

/-- The hop variables of a path with spaces between them. -/
def hopList : Expr := .filter (.name "hops") .join [(.place, .constant (.text " "))]

/-- The variables by which occurrences are counted. -/
def groupLine : List Node :=
  [.text "\x7d\nGROUP BY ", .print (.choice (.name "hops") hopList (.constant (.text "?POF"))), .text "\n"]

/-- The candidates that are counted. -/
def candidates : List Node :=
  [.text " \x7b ", .loop (.name "value") (.name "values") none [printName "value", .text " "] [] 1, .text "\x7d\n"]

/-- The template for recommendation queries. -/
def recommendation : Template where
  nodes := [.text "SELECT DISTINCT ", printName "pof", .text "\nWHERE \x7b\n", patternLines, keywordFilter,
    startFilter, .text "\x7d\nLIMIT 10\n"]

/-- The template for counting queries. -/
def counting : Template where
  nodes := [.text "SELECT ", printName "pof", .text " (count(*) as ?count)\n", graphLine, .text "WHERE \x7b\n",
    patternLines, keywordFilter, startFilter] ++ groupLine

/-- The template for popularity queries. -/
def popularity : Template where
  nodes := [.text "SELECT ", printName "pof", .text " (count(*) as ?count)\n", graphLine, .text "WHERE \x7b\n",
    .branch (.name "hops")
      ([.text "  VALUES (", .print hopList, .text ")"] ++ candidates)
      ([.text "  VALUES ?POF"] ++ candidates),
    patternLines] ++ groupLine

end PointOfFocus.Template
