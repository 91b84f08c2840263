import PointOfFocus.Completion
import PointOfFocus.Endpoint.Result
import PointOfFocus.Ranking.Rank
import PointOfFocus.Settings.Basic

/-!
# What can go wrong

One type for all faults that a user or a caller can meet, with one wording for each.
-/

namespace PointOfFocus

/-- Why there is nothing to measure. -/
inductive Degenerate where
  /-- There are no candidates. -/
  | noCandidates
  /-- No candidate can be asked for again. -/
  | noneBindable
  /-- There are no counts. -/
  | noCounts
deriving DecidableEq

/-- The wording of the fault. -/
def Degenerate.message : Degenerate → String
  | .noCandidates => "No recommendations"
  | .noneBindable => "No recommendation can be bound for the popularity query"
  | .noCounts => "No popularity counts for the recommendations"

/-- A fault. -/
inductive Error where
  /-- The query with the given text is wrong. -/
  | query (text : List Char) (cause : Query.Error)
  /-- A template is wrong. -/
  | template (cause : Template.Fault)
  /-- A template cannot be filled. -/
  | render (cause : Template.RenderError)
  /-- A term cannot be built or written. -/
  | term (cause : Rdf.TermError)
  /-- A value is no number. -/
  | number (cause : Data.Value.NumberError)
  /-- A pattern lacks a part. -/
  | incomplete
  /-- A value has the wrong shape. -/
  | shape (cause : Data.ShapeError)
  /-- A candidate cannot be written. -/
  | candidate (cause : Ranking.CandidateError)
  /-- An endpoint failed. -/
  | endpoint (cause : Endpoint.Fault)
  /-- There is nothing to measure. -/
  | degenerate (cause : Degenerate)
  /-- The mean lies outside the floating-point range. -/
  | meanOverflow
  /-- The settings are wrong. -/
  | settings (cause : Settings.Invalid)
  /-- A home directory is not found. -/
  | home (cause : Settings.HomeFault)
  /-- A directory stands in the place of a file. -/
  | directory (path : String)
  /-- There is no file at the path. -/
  | noFile (path : String)
  /-- A scalar of the settings file has no value. -/
  | scalar (cause : Data.Yaml.ReadError)
  /-- A recommendation query is no query of the language. -/
  | notValid

/-- The fault that keeps bindings from being ranked. -/
def Error.ofRank : Ranking.RankError → Error
  | .shape cause => .shape cause
  | .count cause => .number cause

/-- The fault that keeps settings from being read. -/
def Error.ofSettings : Settings.Fault → Error
  | .invalid cause => .settings cause
  | .outOfRange cause => .number cause
  | .home cause => .home cause
  | .directory path => .directory path
  | .noFile path => .noFile path
  | .unreadable cause => .scalar cause

/-- The wording of the fault. -/
def Error.message : Error → String
  | .query text cause => cause.message text
  | .template cause => cause.message
  | .render cause => cause.message
  | .term cause => cause.message
  | .number cause => cause.message
  | .incomplete => Scope.IncompletePattern.message .incomplete
  | .shape cause => cause.message
  | .candidate cause => cause.message
  | .endpoint cause => cause.message
  | .degenerate cause => cause.message
  | .meanOverflow => "integer division result too large for a float"
  | .settings cause => cause.message
  | .home cause => cause.message
  | .directory path => "[Errno 21] Is a directory: " ++ Text.quoted path
  | .noFile path => "[Errno 2] No such file or directory: " ++ Text.quoted path
  | .scalar cause => cause.message
  | .notValid => "Synthesized query is not valid SPARQL"

/-- Whether the fault is told to the user as a message. Any other fault is one that the program was not made for. -/
def Error.isReported : Error → Bool
  | .query _ (.at _ _) => true
  | .template _ => true
  | .endpoint _ => true
  | .degenerate _ => true
  | .settings _ => true
  | .notValid => true
  | _ => false

end PointOfFocus
