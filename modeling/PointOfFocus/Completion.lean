import PointOfFocus.Query.Parse
import PointOfFocus.Template.Builtin

/-!
# Completing a query

A scope that was filled from a query is prepared and put into a template: the result is the recommendation query,
whose answers are the terms recommended for the point of focus.
-/

namespace PointOfFocus

/-- Prepares a scope and writes its recommendation query. What was done before a fault stays. -/
def Scope.recommendationQuery (template : Template) (context : List (String × Data.Value)) (s : Scope) :
    Except Template.RenderError String × Scope :=
  match s.prepare with
  | (.error e, after) => (.error (.term e), after)
  | (.ok (), after) => (template.render after context, after)

end PointOfFocus
