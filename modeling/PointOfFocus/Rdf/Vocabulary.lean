/-!
# Names with a meaning of their own

The IRIs that the language itself gives a meaning: the type predicate, lists, and the datatypes of literals.
-/

namespace PointOfFocus.Rdf

/-- The IRI of the type predicate. -/
def typeIri : String := "http://www.w3.org/1999/02/22-rdf-syntax-ns#type"

/-- The IRI of the predicate from a list to its first item. -/
def firstIri : String := "http://www.w3.org/1999/02/22-rdf-syntax-ns#first"

/-- The IRI of the predicate from a list to what follows its first item. -/
def restIri : String := "http://www.w3.org/1999/02/22-rdf-syntax-ns#rest"

/-- The IRI of the empty list. -/
def nilIri : String := "http://www.w3.org/1999/02/22-rdf-syntax-ns#nil"

/-- The IRI of the datatype of fragments of markup. -/
def markupIri : String := "http://www.w3.org/1999/02/22-rdf-syntax-ns#XMLLiteral"

/-- The start of the IRIs of the standard datatypes. -/
def datatypeNamespace : String := "http://www.w3.org/2001/XMLSchema#"

/-- The standard datatype with the given name. -/
def datatype (name : String) : String := datatypeNamespace ++ name

end PointOfFocus.Rdf
