import QueryTemplate.Binding
import QueryTemplate.Calendar.Basic
import QueryTemplate.Calendar.Read
import QueryTemplate.Calendar.Text
import QueryTemplate.Catalog
import QueryTemplate.CommandLine.Arguments
import QueryTemplate.CommandLine.Run
import QueryTemplate.Comparison
import QueryTemplate.Condition.Basic
import QueryTemplate.Condition.Eval
import QueryTemplate.Condition.Factory
import QueryTemplate.Condition.Inspect
import QueryTemplate.Decision.Basic
import QueryTemplate.Decision.Builder
import QueryTemplate.Document.CompareValue
import QueryTemplate.Document.ConditionReader
import QueryTemplate.Document.Field
import QueryTemplate.Document.Issue
import QueryTemplate.Document.PlainValue
import QueryTemplate.Document.Reader
import QueryTemplate.Document.TemplateReader
import QueryTemplate.Document.Writer
import QueryTemplate.Engine.Fragment
import QueryTemplate.Engine.Literal
import QueryTemplate.Engine.Predicate
import QueryTemplate.Expression.Basic
import QueryTemplate.Expression.Eval
import QueryTemplate.Expression.Parser
import QueryTemplate.Expression.Reference
import QueryTemplate.Expression.Token
import QueryTemplate.Expression.Tree
import QueryTemplate.Json.Basic
import QueryTemplate.Json.Parser
import QueryTemplate.Json.Printer
import QueryTemplate.Library.Document
import QueryTemplate.Library.Files
import QueryTemplate.Library.Load
import QueryTemplate.Main
import QueryTemplate.Notice
import QueryTemplate.Number.Basic
import QueryTemplate.Number.Binary64
import QueryTemplate.Number.Decimal
import QueryTemplate.Number.Digits
import QueryTemplate.Number.Progression
import QueryTemplate.Number.Read
import QueryTemplate.Number.Shortest
import QueryTemplate.Service.Respond
import QueryTemplate.Service.Route
import QueryTemplate.Template.Basic
import QueryTemplate.Template.Compile
import QueryTemplate.Template.Equality
import QueryTemplate.Template.Eval
import QueryTemplate.Template.Format
import QueryTemplate.Text.Blank
import QueryTemplate.Text.Components
import QueryTemplate.Text.Digit
import QueryTemplate.Text.Lines
import QueryTemplate.Text.Printable
import QueryTemplate.Text.Quoted
import QueryTemplate.Text.Ranges
import QueryTemplate.Text.Utf8
import QueryTemplate.Text.Word
import QueryTemplate.Value.Basic
import QueryTemplate.Value.Collect
import QueryTemplate.Value.Equality
import QueryTemplate.Value.Inspect
import QueryTemplate.Proofs.Calendar.Fields
import QueryTemplate.Proofs.Calendar.Order
import QueryTemplate.Proofs.Calendar.Times
import QueryTemplate.Proofs.Catalog.Runs
import QueryTemplate.Proofs.Comparison.Duality
import QueryTemplate.Proofs.Comparison.Order
import QueryTemplate.Proofs.Decision.Amended
import QueryTemplate.Proofs.Decision.Builder
import QueryTemplate.Proofs.Decision.BuilderRuns
import QueryTemplate.Proofs.Document.Breaks
import QueryTemplate.Proofs.Document.Checked
import QueryTemplate.Proofs.Document.CompareValue
import QueryTemplate.Proofs.Document.Condition
import QueryTemplate.Proofs.Document.Decoded
import QueryTemplate.Proofs.Document.Flaws
import QueryTemplate.Proofs.Document.RoundTrip
import QueryTemplate.Proofs.Document.Storable
import QueryTemplate.Proofs.Document.Template
import QueryTemplate.Proofs.Engine.Fragments
import QueryTemplate.Proofs.Engine.Grammar
import QueryTemplate.Proofs.Engine.Literals
import QueryTemplate.Proofs.Engine.Names
import QueryTemplate.Proofs.Engine.Predicates
import QueryTemplate.Proofs.Engine.Reading
import QueryTemplate.Proofs.Evaluation.Choice
import QueryTemplate.Proofs.Evaluation.Contract
import QueryTemplate.Proofs.Evaluation.Failure
import QueryTemplate.Proofs.Evaluation.FromSource
import QueryTemplate.Proofs.Evaluation.Mentioned
import QueryTemplate.Proofs.Evaluation.Missing
import QueryTemplate.Proofs.Evaluation.ParameterObjects
import QueryTemplate.Proofs.Evaluation.RestoredEquality
import QueryTemplate.Proofs.Evaluation.RestoredTemplates
import QueryTemplate.Proofs.Evaluation.Undefined
import QueryTemplate.Proofs.Expression.Composition
import QueryTemplate.Proofs.Expression.Constants
import QueryTemplate.Proofs.Expression.Derivation
import QueryTemplate.Proofs.Expression.Division
import QueryTemplate.Proofs.Expression.Grammar
import QueryTemplate.Proofs.Expression.Lexemes
import QueryTemplate.Proofs.Expression.Quotation
import QueryTemplate.Proofs.Expression.Reading
import QueryTemplate.Proofs.Expression.References
import QueryTemplate.Proofs.Expression.Scanning
import QueryTemplate.Proofs.Json.Numbers
import QueryTemplate.Proofs.Json.Reading
import QueryTemplate.Proofs.Json.Texts
import QueryTemplate.Proofs.Library.Loading
import QueryTemplate.Proofs.Number.DecimalText
import QueryTemplate.Proofs.Number.Nearest
import QueryTemplate.Proofs.Number.Position
import QueryTemplate.Proofs.Number.Rounding
import QueryTemplate.Proofs.Number.Shortest
import QueryTemplate.Proofs.Outcome
import QueryTemplate.Proofs.Service.Agreement
import QueryTemplate.Proofs.Template.Format
import QueryTemplate.Proofs.Template.Meaning
import QueryTemplate.Proofs.Template.NormalForm
import QueryTemplate.Proofs.Template.SetOrder
import QueryTemplate.Proofs.Text.Digits
import QueryTemplate.Proofs.Text.Joined
import QueryTemplate.Proofs.Text.Quoted
import QueryTemplate.Proofs.Text.Tidy
import QueryTemplate.Proofs.Traced
import QueryTemplate.Proofs.Value.Clash
import QueryTemplate.Proofs.Value.Collect
import QueryTemplate.Proofs.Value.Equality
import QueryTemplate.Proofs.Value.Forms
import QueryTemplate.Proofs.Value.Keys
import QueryTemplate.Proofs.Value.Parts
import QueryTemplate.Proofs.Value.Positions
import QueryTemplate.Proofs.Value.Reordered
import QueryTemplate.Proofs.Value.Restored
import QueryTemplate.Proofs.Value.Symmetry
import QueryTemplate.Proofs.Value.Unfolded
import QueryTemplate.Proofs.Value.WellFormed
