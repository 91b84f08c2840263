import PointOfFocus.Calendar.Clock
import PointOfFocus.Calendar.Date
import PointOfFocus.Calendar.Digits
import PointOfFocus.Calendar.Duration
import PointOfFocus.Calendar.Moment
import PointOfFocus.CommandLine.Arguments
import PointOfFocus.CommandLine.Command
import PointOfFocus.CommandLine.Help
import PointOfFocus.Completion
import PointOfFocus.Data.Binary
import PointOfFocus.Data.Json.Reader
import PointOfFocus.Data.Json.Writer
import PointOfFocus.Data.Shape
import PointOfFocus.Data.Value
import PointOfFocus.Data.Xml
import PointOfFocus.Data.Yaml.Cursor
import PointOfFocus.Data.Yaml.Layout
import PointOfFocus.Data.Yaml.Node
import PointOfFocus.Data.Yaml.Reader
import PointOfFocus.Data.Yaml.Scalar
import PointOfFocus.Data.Yaml.Tag
import PointOfFocus.Data.Yaml.Token
import PointOfFocus.Endpoint.Exchange
import PointOfFocus.Endpoint.Inquiry
import PointOfFocus.Endpoint.Result
import PointOfFocus.Error
import PointOfFocus.Main
import PointOfFocus.Number.Binary64
import PointOfFocus.Number.Integer
import PointOfFocus.Number.Power
import PointOfFocus.Number.Scientific
import PointOfFocus.Number.Shortest
import PointOfFocus.Plan
import PointOfFocus.Proofs.Completion
import PointOfFocus.Proofs.Query.Desugaring
import PointOfFocus.Proofs.Query.Groups
import PointOfFocus.Proofs.Query.Lexing
import PointOfFocus.Proofs.Query.Names
import PointOfFocus.Proofs.Query.Phrase
import PointOfFocus.Proofs.Query.Phrase.Group
import PointOfFocus.Proofs.Query.Phrase.Node
import PointOfFocus.Proofs.Query.Phrase.Term
import PointOfFocus.Proofs.Query.Rereading
import PointOfFocus.Proofs.Query.Shape
import PointOfFocus.Proofs.Query.Soundness
import PointOfFocus.Proofs.Query.Stream
import PointOfFocus.Proofs.Query.Terms
import PointOfFocus.Proofs.Query.Triples
import PointOfFocus.Proofs.Query.Verb
import PointOfFocus.Proofs.Query.Writing
import PointOfFocus.Proofs.Rdf.Literal
import PointOfFocus.Proofs.Scope.Component
import PointOfFocus.Proofs.Scope.Preparation
import PointOfFocus.Proofs.Template.Recommendation
import PointOfFocus.Proofs.Text.Escape
import PointOfFocus.Proofs.Text.Letter
import PointOfFocus.Query.Error
import PointOfFocus.Query.Groups
import PointOfFocus.Query.Lexeme
import PointOfFocus.Query.Limit
import PointOfFocus.Query.Names
import PointOfFocus.Query.Parse
import PointOfFocus.Query.Stream
import PointOfFocus.Query.Token
import PointOfFocus.Query.Tokenize
import PointOfFocus.Query.Triples
import PointOfFocus.Query.Validity
import PointOfFocus.Query.Validity.Grammar
import PointOfFocus.Query.Validity.Pattern
import PointOfFocus.Query.Validity.Terminal
import PointOfFocus.Query.Verb
import PointOfFocus.Ranking.Candidate
import PointOfFocus.Ranking.Measure
import PointOfFocus.Ranking.Rank
import PointOfFocus.Rdf.Literal
import PointOfFocus.Rdf.LiteralValue
import PointOfFocus.Rdf.Term
import PointOfFocus.Rdf.Vocabulary
import PointOfFocus.Scope.Basic
import PointOfFocus.Scope.Chain
import PointOfFocus.Scope.Component
import PointOfFocus.Scope.Pattern
import PointOfFocus.Scope.Recommendation
import PointOfFocus.Session
import PointOfFocus.Settings.Basic
import PointOfFocus.Settings.Configuration
import PointOfFocus.Settings.Location
import PointOfFocus.Settings.Store
import PointOfFocus.Template.Arithmetic
import PointOfFocus.Template.Builtin
import PointOfFocus.Template.Call
import PointOfFocus.Template.Check
import PointOfFocus.Template.Compare
import PointOfFocus.Template.Datum
import PointOfFocus.Template.Error
import PointOfFocus.Template.Examine
import PointOfFocus.Template.Expression
import PointOfFocus.Template.Filter
import PointOfFocus.Template.Member
import PointOfFocus.Template.Render
import PointOfFocus.Template.Statement
import PointOfFocus.Template.Stream
import PointOfFocus.Template.Token
import PointOfFocus.Template.Tree
import PointOfFocus.Text.Backslash
import PointOfFocus.Text.Blank
import PointOfFocus.Text.CharacterName
import PointOfFocus.Text.CodePoints
import PointOfFocus.Text.Digit
import PointOfFocus.Text.Escape
import PointOfFocus.Text.Identifier
import PointOfFocus.Text.Lines
import PointOfFocus.Text.LowerCase
import PointOfFocus.Text.Position
import PointOfFocus.Text.Printable
import PointOfFocus.Text.Quoted
import PointOfFocus.Text.Replace
import PointOfFocus.Text.Similarity
import PointOfFocus.Text.Terminal
import PointOfFocus.Text.UpperCase
import PointOfFocus.Text.Word
import PointOfFocus.Proofs.Query.Occurrence
import PointOfFocus.Proofs.Scope.Solutions
import PointOfFocus.Proofs.Query.Focus
import PointOfFocus.Proofs.PathExpansion
import PointOfFocus.Proofs.Query.Change
import PointOfFocus.Proofs.Query.Freshness
import PointOfFocus.Proofs.Query.Objects
import PointOfFocus.Proofs.Query.Faults
import PointOfFocus.Proofs.Query.Totality
import PointOfFocus.Proofs.Endpoint.Reporting
import PointOfFocus.Proofs.Query.Coverage
import PointOfFocus.Proofs.Session
import PointOfFocus.Proofs.Settings.Store
import PointOfFocus.Proofs.Number.Range
import PointOfFocus.Proofs.Template.Counting
import PointOfFocus.Proofs.Ranking.Rank
import PointOfFocus.Proofs.Ranking.Measure
import PointOfFocus.Proofs.Query.Variant
import PointOfFocus.Proofs.Query.Agreement
import PointOfFocus.Proofs.Query.Skipping
import PointOfFocus.Proofs.Query.Quoting
import PointOfFocus.Proofs.Ranking.Counts
import PointOfFocus.Proofs.Ranking.Rows
import PointOfFocus.Proofs.Ranking.Paths
import PointOfFocus.Proofs.Query.Limit
import PointOfFocus.Proofs.Query.PathWriting
import PointOfFocus.Proofs.Rdf.LongText
import PointOfFocus.Proofs.Rdf.NumberWords
import PointOfFocus.Proofs.Query.LiteralWriting
import PointOfFocus.Proofs.Query.Stopping
import PointOfFocus.Proofs.Query.StoppedText
import PointOfFocus.Proofs.Query.LineReading
import PointOfFocus.Proofs.Query.BrokenNames
import PointOfFocus.Proofs.Query.LimitText
import PointOfFocus.Proofs.LimitedQuery
import PointOfFocus.Proofs.Query.Appending
import PointOfFocus.Proofs.PreparedFocus
import PointOfFocus.Proofs.Query.Keyword
import PointOfFocus.Proofs.Query.Movement
import PointOfFocus.Proofs.Text.Position
import PointOfFocus.Proofs.Query.Places
import PointOfFocus.Proofs.Query.Brackets
import PointOfFocus.Proofs.Query.PathText
import PointOfFocus.Proofs.Query.Keys
import PointOfFocus.Proofs.Query.Productions
import PointOfFocus.Proofs.Endpoint.Consistency
import PointOfFocus.Proofs.Settings.Sections

/-!
# Completing queries at a point of focus

A query with a point of focus is cut into tokens (`Query.tokenize`) and read into a scope (`Query.parse`), the scope is
prepared and put into a template (`Scope.recommendationQuery`), and what an endpoint answers is ranked and measured
(`Ranking.rank`, `Ranking.measure`). Settings and the commands of a program stand around that. Every definition here
runs; what holds of them on all inputs is shown in the modules below `PointOfFocus.Proofs`.

Some limits of a running program are no part of the library.

* Nesting and memory are not limited. Only the number of digits of an integer is, where it is read or written
  (`Number.maxDigits`).
* A text holds Unicode scalar values, so an escape that names a surrogate gives the replacement character.
* The user database and the home directories are a parameter (`Settings.Homes`), and so are files, the replies of an
  endpoint and the time that they take (`Plan`, `Endpoint.Reply`).
* Durations keep all of their digits.
* Nothing is logged.
-/
