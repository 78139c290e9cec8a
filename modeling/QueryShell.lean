import QueryShell.Bson.Basic
import QueryShell.Bson.Decimal
import QueryShell.Bson.Inspect
import QueryShell.Bson.Json
import QueryShell.Bson.Storable
import QueryShell.Calendar
import QueryShell.Client.Basic
import QueryShell.Client.Cursor
import QueryShell.Client.Request
import QueryShell.Client.Store
import QueryShell.CommandLine.Basic
import QueryShell.CommandLine.Flag
import QueryShell.CommandLine.Parser
import QueryShell.CommandLine.Run
import QueryShell.Completion.Candidate
import QueryShell.Completion.Context
import QueryShell.Completion.Snippet
import QueryShell.Completion.Suggestion
import QueryShell.Completion.Table
import QueryShell.Completion.Word
import QueryShell.Connection
import QueryShell.Display.Basic
import QueryShell.Display.Bytes
import QueryShell.Display.Cell
import QueryShell.Display.Grid
import QueryShell.Display.Layout
import QueryShell.Display.Table
import QueryShell.Entries
import QueryShell.Error.Basic
import QueryShell.Error.Info
import QueryShell.Error.Query
import QueryShell.Error.Reading
import QueryShell.Execution
import QueryShell.FirstSeen
import QueryShell.Json.Basic
import QueryShell.Json.Printer
import QueryShell.Json.Reread
import QueryShell.Json.Written
import QueryShell.Literal.Basic
import QueryShell.Literal.Document
import QueryShell.Literal.Fault
import QueryShell.Literal.Json
import QueryShell.Literal.Parser
import QueryShell.Literal.Printer
import QueryShell.Main
import QueryShell.Modifier
import QueryShell.Number.Decimal
import QueryShell.Number.Double
import QueryShell.Number.Integer
import QueryShell.Operation
import QueryShell.Plan
import QueryShell.Proofs.Checked.Completion
import QueryShell.Proofs.Checked.Descent
import QueryShell.Proofs.Checked.Query
import QueryShell.Proofs.Checked.Split
import QueryShell.Proofs.Checked.Text
import QueryShell.Proofs.Client.Arguments
import QueryShell.Proofs.Client.Counts
import QueryShell.Proofs.Client.Cursor
import QueryShell.Proofs.Client.Execution
import QueryShell.Proofs.Client.Explanation
import QueryShell.Proofs.Client.Recording
import QueryShell.Proofs.Completion.Accepted
import QueryShell.Proofs.Completion.Cursor
import QueryShell.Proofs.Completion.Grammar
import QueryShell.Proofs.Completion.Insertion
import QueryShell.Proofs.Completion.Names
import QueryShell.Proofs.Completion.Narrowing
import QueryShell.Proofs.Completion.OpenLiteral
import QueryShell.Proofs.Completion.Ranking
import QueryShell.Proofs.Completion.Snippet
import QueryShell.Proofs.Completion.Walk
import QueryShell.Proofs.Completion.Word
import QueryShell.Proofs.Connection
import QueryShell.Proofs.Display.Bytes
import QueryShell.Proofs.Entries
import QueryShell.Proofs.Execution.Calls
import QueryShell.Proofs.Execution.Failures
import QueryShell.Proofs.Execution.Planning
import QueryShell.Proofs.Execution.Recording
import QueryShell.Proofs.Json.Accepted
import QueryShell.Proofs.Json.Grammar
import QueryShell.Proofs.Literal.Acceptance
import QueryShell.Proofs.Literal.Document
import QueryShell.Proofs.Literal.Faults
import QueryShell.Proofs.Literal.Grammar
import QueryShell.Proofs.Literal.KeyOrder
import QueryShell.Proofs.Literal.RoundTrip
import QueryShell.Proofs.Literal.Views
import QueryShell.Proofs.Number.Binade
import QueryShell.Proofs.Number.Count
import QueryShell.Proofs.Number.Integral
import QueryShell.Proofs.Number.Nearest
import QueryShell.Proofs.Number.Numeral
import QueryShell.Proofs.Number.Order
import QueryShell.Proofs.Number.Parts
import QueryShell.Proofs.Number.Places
import QueryShell.Proofs.Outcome
import QueryShell.Proofs.Query.Acceptance
import QueryShell.Proofs.Query.Form
import QueryShell.Proofs.Query.Localised
import QueryShell.Proofs.Query.RoundTrip
import QueryShell.Proofs.Query.Spacing
import QueryShell.Proofs.Query.Tokens
import QueryShell.Proofs.Query.Walk
import QueryShell.Proofs.Schema.Collector
import QueryShell.Proofs.Schema.Paths
import QueryShell.Proofs.Schema.Sampling
import QueryShell.Proofs.Session.History
import QueryShell.Proofs.Session.Isolation
import QueryShell.Proofs.Session.Staleness
import QueryShell.Proofs.Text.Boundary
import QueryShell.Proofs.Text.Ending
import QueryShell.Proofs.Text.LowerCase
import QueryShell.Proofs.Token.Cut
import QueryShell.Proofs.Token.Scan
import QueryShell.Proofs.Token.Spacing
import QueryShell.Proofs.Token.Tiling
import QueryShell.Proofs.Token.Unclosed
import QueryShell.Proofs.Token.Verbatim
import QueryShell.Proofs.Token.Written
import QueryShell.Query.Basic
import QueryShell.Query.Fault
import QueryShell.Query.Parser
import QueryShell.Result
import QueryShell.Schema
import QueryShell.Session
import QueryShell.Settings.Basic
import QueryShell.Settings.Toml
import QueryShell.Store
import QueryShell.Text.Alphanumeric
import QueryShell.Text.Base64
import QueryShell.Text.Blank
import QueryShell.Text.Extend
import QueryShell.Text.Inspect
import QueryShell.Text.LowerCase
import QueryShell.Text.Offset
import QueryShell.Text.Quoted
import QueryShell.Text.Range
import QueryShell.Text.Width
import QueryShell.Text.Width.Table
import QueryShell.Token.Basic
import QueryShell.Token.Lexer
import QueryShell.Token.Tree
import QueryShell.Toml.Basic
import QueryShell.Toml.Item
import QueryShell.Toml.Parser
import QueryShell.Toml.Printer
import QueryShell.Toml.Scalar
import QueryShell.Wire.Client
import QueryShell.Wire.Command
import QueryShell.Wire.Failure
import QueryShell.Wire.Reply
