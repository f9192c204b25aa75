import Assay.Assertion.Basic
import Assay.Assertion.Catalog
import Assay.Assertion.Check
import Assay.Assertion.Expected
import Assay.Assertion.Verdict
import Assay.Calendar
import Assay.Command.Arguments
import Assay.Command.Execution
import Assay.Command.Folder
import Assay.Command.Invocation
import Assay.Command.Outcome
import Assay.Console.Emoji
import Assay.Console.EmojiTable
import Assay.Console.Grid
import Assay.Console.Layout
import Assay.Console.Markup
import Assay.Console.Sequence
import Assay.Console.Style
import Assay.Datum.Basic
import Assay.Datum.Json
import Assay.Datum.Written
import Assay.Exchange
import Assay.Failure
import Assay.Json.Equality
import Assay.Json.Numeral
import Assay.Json.Path
import Assay.Json.Profile
import Assay.Json.Reader
import Assay.Json.Refusal
import Assay.Json.Token
import Assay.Json.Value
import Assay.Json.Walk
import Assay.Json.Writer
import Assay.Loading
import Assay.Main
import Assay.Number.Double
import Assay.Number.DoubleText
import Assay.Number.IntegerText
import Assay.Number.Layout
import Assay.Number.Numeral
import Assay.Number.Rounding
import Assay.Number.Shortest
import Assay.Pattern.CharSet
import Assay.Pattern.CharacterName
import Assay.Pattern.Matcher
import Assay.Pattern.Reader
import Assay.Pattern.Syntax
import Assay.Pattern.Token
import Assay.Payload
import Assay.Proofs.Assertion.Asked
import Assay.Proofs.Assertion.Check
import Assay.Proofs.Assertion.Equality
import Assay.Proofs.Assertion.Expected
import Assay.Proofs.Assertion.Independence
import Assay.Proofs.Assertion.Opposite
import Assay.Proofs.Assertion.Reported
import Assay.Proofs.Assertion.Support
import Assay.Proofs.Command.Ending
import Assay.Proofs.Command.Showing
import Assay.Proofs.Comparable
import Assay.Proofs.Console.Markup
import Assay.Proofs.Datum.Json
import Assay.Proofs.Datum.Plain
import Assay.Proofs.Datum.Structured
import Assay.Proofs.Exchange.Alignment
import Assay.Proofs.Exchange.Batch
import Assay.Proofs.Exchange.Boundary
import Assay.Proofs.Exchange.Encoding
import Assay.Proofs.Exchange.Readable
import Assay.Proofs.Exchange.Run
import Assay.Proofs.Exchange.Simulation
import Assay.Proofs.Extraction
import Assay.Proofs.Extraction.Query
import Assay.Proofs.Extraction.Variables
import Assay.Proofs.Json.Acceptance
import Assay.Proofs.Json.Address
import Assay.Proofs.Json.Collection
import Assay.Proofs.Json.Denotation
import Assay.Proofs.Json.Depth
import Assay.Proofs.Json.Equality
import Assay.Proofs.Json.Grammar
import Assay.Proofs.Json.Layout
import Assay.Proofs.Json.Nesting
import Assay.Proofs.Json.Numeral
import Assay.Proofs.Json.Overlong
import Assay.Proofs.Json.Path
import Assay.Proofs.Json.Profile
import Assay.Proofs.Json.Reader
import Assay.Proofs.Json.RoundTrip
import Assay.Proofs.Json.Step
import Assay.Proofs.Json.Token
import Assay.Proofs.Json.Unambiguous
import Assay.Proofs.Json.Value
import Assay.Proofs.Json.Walk
import Assay.Proofs.Json.Writer
import Assay.Proofs.Loading
import Assay.Proofs.Mention
import Assay.Proofs.Number.Digits
import Assay.Proofs.Number.Equality
import Assay.Proofs.Number.Rounding
import Assay.Proofs.Number.Shortest
import Assay.Proofs.Override
import Assay.Proofs.Payload
import Assay.Proofs.Payload.Loose
import Assay.Proofs.Query.Engine
import Assay.Proofs.Query.Reading
import Assay.Proofs.Query.Search
import Assay.Proofs.Report.Counts
import Assay.Proofs.Report.Growth
import Assay.Proofs.Run
import Assay.Proofs.Suite.Faithful
import Assay.Proofs.Suite.Reader
import Assay.Proofs.Suite.Schema
import Assay.Proofs.Suite.Shape
import Assay.Proofs.Suite.Switch
import Assay.Proofs.Suite.Warning
import Assay.Proofs.Table
import Assay.Proofs.Template.Interpolation
import Assay.Proofs.Template.Reading
import Assay.Proofs.Template.Residue
import Assay.Proofs.Text
import Assay.Proofs.Traversal
import Assay.Proofs.Yaml.Fault
import Assay.Query.Engine
import Assay.Query.Expr
import Assay.Query.Reader
import Assay.Query.Search
import Assay.Query.Token
import Assay.Report.Basic
import Assay.Report.Identity
import Assay.Report.Text
import Assay.Report.Timeline
import Assay.Response
import Assay.Review
import Assay.Rule
import Assay.Run
import Assay.Suite.Reader
import Assay.Suite.Schema
import Assay.Table
import Assay.Template
import Assay.Text.Alphanumeric
import Assay.Text.Basic
import Assay.Text.Case
import Assay.Text.CaseTable
import Assay.Text.Encoding
import Assay.Text.Identifier
import Assay.Text.Printable
import Assay.Text.Quoted
import Assay.Text.Width
import Assay.Verbosity
import Assay.Yaml.Binary
import Assay.Yaml.Character
import Assay.Yaml.Cursor
import Assay.Yaml.Fault
import Assay.Yaml.Node.Basic
import Assay.Yaml.Node.Reader
import Assay.Yaml.Reader
import Assay.Yaml.Scalar
import Assay.Yaml.Tag
import Assay.Yaml.Timestamp
import Assay.Yaml.Token.Basic
import Assay.Yaml.Token.Block
import Assay.Yaml.Token.Plain
import Assay.Yaml.Token.Property
import Assay.Yaml.Token.Quoted
import Assay.Yaml.Token.Scan
