import MacroByExample.Form.Basic
import MacroByExample.Form.Text
import MacroByExample.Form.Layout
import MacroByExample.Text.Blank
import MacroByExample.Text.Bytes
import MacroByExample.Text.ColumnTable
import MacroByExample.Text.UnseenTable
import MacroByExample.Text.CharColumns
import MacroByExample.Text.Columns
import MacroByExample.Text.Lines
import MacroByExample.Text.LineDiff
import MacroByExample.Text.Quoted
import MacroByExample.Token.Map
import MacroByExample.Token.Set
import MacroByExample.Reader.Delimiter
import MacroByExample.Reader.Grammar
import MacroByExample.Reader.Basic
import MacroByExample.Rules.Settings
import MacroByExample.Rules.Bindings
import MacroByExample.Rules.Match
import MacroByExample.Rules.Expand
import MacroByExample.Rules.Dispatch
import MacroByExample.Rules.RuleSet
import MacroByExample.Rules.Definition
import MacroByExample.Rules.MacroTable
import MacroByExample.Rules.Definitions
import MacroByExample.Decimal.Shortest
import MacroByExample.Json.Error
import MacroByExample.Json.Token
import MacroByExample.Json.Reader
import MacroByExample.Json.Value
import MacroByExample.Json.Codec
import MacroByExample.Configuration
import MacroByExample.Failure
import MacroByExample.Report
import MacroByExample.CommandLine.Option
import MacroByExample.CommandLine.Words
import MacroByExample.CommandLine.Invocation
import MacroByExample.CommandLine.Execute
import MacroByExample.Main
import MacroByExample.Proofs.Except
import MacroByExample.Proofs.Rules.Position
import MacroByExample.Proofs.Rules.Extension
import MacroByExample.Proofs.Rules.Shape
import MacroByExample.Proofs.Rules.Expansion
import MacroByExample.Proofs.Rules.RoundTrip
import MacroByExample.Proofs.Rules.Progress
import MacroByExample.Proofs.Rules.Firing
import MacroByExample.Proofs.Rules.Provenance
import MacroByExample.Proofs.Rules.Elementwise
import MacroByExample.Proofs.Rules.Precedence
import MacroByExample.Proofs.Form.Substitution
import MacroByExample.Proofs.Rules.Image
import MacroByExample.Proofs.Rules.Opacity
import MacroByExample.Proofs.Rules.Renaming
import MacroByExample.Proofs.Reader.Recursion
import MacroByExample.Proofs.Reader.Balance
import MacroByExample.Proofs.Reader.Grammar
import MacroByExample.Proofs.Reader.Reading
import MacroByExample.Proofs.Reader.BlankText
import MacroByExample.Proofs.Reader.Writing
import MacroByExample.Proofs.Text.Columns
import MacroByExample.Proofs.Form.LayoutLines
import MacroByExample.Proofs.Reader.Lexemes
import MacroByExample.Proofs.Reader.OpenPairs
import MacroByExample.Proofs.Reader.FaultPosition
import MacroByExample.Proofs.Rules.Trailing
import MacroByExample.Proofs.CommandLine.Formatting
import MacroByExample.Proofs.Rules.Conservation
import MacroByExample.Proofs.Rules.Loading
import MacroByExample.Proofs.CommandLine.Sources
import MacroByExample.Proofs.CommandLine.Failing
import MacroByExample.Proofs.Rules.NamedDefinitions
import MacroByExample.Proofs.Json.Scalars
import MacroByExample.Proofs.Json.Layout
import MacroByExample.Proofs.Json.ReadingBack
import MacroByExample.Proofs.Json.RoundTrip
import MacroByExample.Proofs.Reader.Places
import MacroByExample.Proofs.Rules.Mismatch
import MacroByExample.Proofs.Rules.TemplateErrors
import MacroByExample.Proofs.Rules.Keyword
import MacroByExample.Proofs.Rules.LooseMarkers
import MacroByExample.Proofs.Rules.Responsible
import MacroByExample.Proofs.Text.LineDiff
import MacroByExample.Proofs.Report.Explanation
import MacroByExample.Proofs.Form.LineBreaks
import MacroByExample.Proofs.CommandLine.Overriding
import MacroByExample.Proofs.Rules.Generality
import MacroByExample.Proofs.Report.Bindings
import MacroByExample.Proofs.Rules.Nesting
