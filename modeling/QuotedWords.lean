import QuotedWords.Text.Basic
import QuotedWords.Text.CodePoints
import QuotedWords.Text.Numeral
import QuotedWords.Text.Runs
import QuotedWords.Text.Blank
import QuotedWords.Text.Lines
import QuotedWords.Text.Printable
import QuotedWords.Text.Hexadecimal
import QuotedWords.Text.Quoted
import QuotedWords.Text.JsonString
import QuotedWords.Text.Utf8
import QuotedWords.Decimal.Binary64
import QuotedWords.Decimal.Shortest
import QuotedWords.Table.Basic
import QuotedWords.Dialect.QuoteMode
import QuotedWords.Datum.Moment
import QuotedWords.Datum.Basic
import QuotedWords.Datum.Display
import QuotedWords.Datum.Limit
import QuotedWords.Dialect.Basic
import QuotedWords.Dialect.Named
import QuotedWords.Dialect.Fault
import QuotedWords.Dialect.Parts
import QuotedWords.Dialect.Settings
import QuotedWords.Dialect.Lookup
import QuotedWords.Position
import QuotedWords.Failure.Basic
import QuotedWords.Failure.Snippet
import QuotedWords.Failure.Limit
import QuotedWords.Splitter.Basic
import QuotedWords.Splitter.Step
import QuotedWords.Splitter.Session
import QuotedWords.Splitter.Transcript
import QuotedWords.Splitter.Display
import QuotedWords.Grammar
import QuotedWords.Writer
import QuotedWords.Line
import QuotedWords.Document
import QuotedWords.Diagnostics
import QuotedWords.Report
import QuotedWords.Report.Reading
import QuotedWords.Trace
import QuotedWords.Toml.Fault
import QuotedWords.Toml.Strings
import QuotedWords.Toml.Number
import QuotedWords.Toml.Moment
import QuotedWords.Toml.Tree
import QuotedWords.Toml.Value
import QuotedWords.Toml.Document
import QuotedWords.Command.Path
import QuotedWords.Command.Files
import QuotedWords.Command.FileTree
import QuotedWords.Command.Input
import QuotedWords.Command.Abort
import QuotedWords.Command.World
import QuotedWords.Command.Flag
import QuotedWords.Command.Word
import QuotedWords.Command.Arguments
import QuotedWords.Command.Help
import QuotedWords.Command.Options
import QuotedWords.Command.Run
import QuotedWords.Main
import QuotedWords.Proofs.Splitter.Meaning
import QuotedWords.Proofs.Splitter.Reading
import QuotedWords.Proofs.Splitter.Session
import QuotedWords.Proofs.Grammar.Beginning
import QuotedWords.Proofs.Grammar.Recognition
import QuotedWords.Proofs.Line.Outcome
import QuotedWords.Proofs.Line.Completion
import QuotedWords.Proofs.Position
import QuotedWords.Proofs.Line.Blame
import QuotedWords.Proofs.Line.Offence
import QuotedWords.Proofs.Splitter.Relocation
import QuotedWords.Proofs.Text.Trimming
import QuotedWords.Proofs.Text.Lines
import QuotedWords.Proofs.Text.Places
import QuotedWords.Proofs.Text.Rows
import QuotedWords.Proofs.Text.OneLine
import QuotedWords.Proofs.Failure.Snippet
import QuotedWords.Proofs.Document.Attempts
import QuotedWords.Proofs.Splitter.Growth
import QuotedWords.Proofs.Document.Joining
import QuotedWords.Proofs.Splitter.Transcript
import QuotedWords.Proofs.Splitter.Retention
import QuotedWords.Proofs.Splitter.Coherence
import QuotedWords.Proofs.Document.Groups
import QuotedWords.Proofs.Document.Place
import QuotedWords.Proofs.Writer.RoundTrip
import QuotedWords.Proofs.Splitter.Acceptance
import QuotedWords.Proofs.Document.Continuation
import QuotedWords.Proofs.Text.FileLines
import QuotedWords.Proofs.Document.Unjoined
import QuotedWords.Proofs.Diagnostics.Agreement
import QuotedWords.Proofs.Line.Cut
import QuotedWords.Proofs.Line.Trimmed
import QuotedWords.Proofs.Line.Plain
import QuotedWords.Proofs.Document.Linewise
import QuotedWords.Proofs.Text.JsonString
import QuotedWords.Proofs.Text.Runs
import QuotedWords.Proofs.Report.Reading
import QuotedWords.Proofs.Command.Outcome
import QuotedWords.Proofs.Diagnostics.Rows
import QuotedWords.Proofs.Splitter.Leaderless
import QuotedWords.Proofs.Table
import QuotedWords.Proofs.Line.Lookups
import QuotedWords.Proofs.Document.Traces
import QuotedWords.Proofs.Command.Debug
import QuotedWords.Proofs.Checking
import QuotedWords.Proofs.Datum.Limit
import QuotedWords.Proofs.Dialect.Parts
import QuotedWords.Proofs.Dialect.Settings
import QuotedWords.Proofs.Table.Comparison
import QuotedWords.Proofs.Dialect.Lookup
import QuotedWords.Proofs.Failure.Alignment
import QuotedWords.Proofs.Toml.Rests
import QuotedWords.Proofs.Toml.Budget
import QuotedWords.Proofs.Toml.Levels
