import SearchClient.Calendar
import SearchClient.Client.Document
import SearchClient.Client.Operation
import SearchClient.Client.Reply
import SearchClient.Client.Signature
import SearchClient.Client.Surface
import SearchClient.CommandLine.Criterion
import SearchClient.CommandLine.Grammar
import SearchClient.CommandLine.Input
import SearchClient.CommandLine.Invocation
import SearchClient.CommandLine.Run
import SearchClient.Decimal.Arithmetic
import SearchClient.Decimal.Binary64
import SearchClient.Decimal.Digits
import SearchClient.Decimal.Layout
import SearchClient.Decimal.Literal
import SearchClient.Decimal.Notation
import SearchClient.Decimal.Shortest
import SearchClient.Failure.Problem
import SearchClient.Failure.Report
import SearchClient.Failure.Taxonomy
import SearchClient.Files
import SearchClient.Http.Address
import SearchClient.Http.Exchange
import SearchClient.Http.Executor
import SearchClient.Http.Header
import SearchClient.Http.Host.Direction
import SearchClient.Http.Host.Domain
import SearchClient.Http.Host.Fault
import SearchClient.Http.Host.Joining
import SearchClient.Http.Host.Label
import SearchClient.Http.Host.Numeric
import SearchClient.Http.Host.Permitted
import SearchClient.Http.Query
import SearchClient.Http.Reason
import SearchClient.Http.Wire
import SearchClient.Json.Error
import SearchClient.Json.Reader
import SearchClient.Json.Writer
import SearchClient.Logging.Event
import SearchClient.Logging.Loggers
import SearchClient.Logging.Setup
import SearchClient.Logging.Template
import SearchClient.Main
import SearchClient.Proofs.Address
import SearchClient.Proofs.Addressing
import SearchClient.Proofs.ClauseReader
import SearchClient.Proofs.Clauses
import SearchClient.Proofs.CommandSearch
import SearchClient.Proofs.ConfigKeywords
import SearchClient.Proofs.Confinement
import SearchClient.Proofs.Criteria
import SearchClient.Proofs.Deletion
import SearchClient.Proofs.Digits
import SearchClient.Proofs.Dumping
import SearchClient.Proofs.Echo
import SearchClient.Proofs.Editing
import SearchClient.Proofs.Entries
import SearchClient.Proofs.Envelopes
import SearchClient.Proofs.Except
import SearchClient.Proofs.Existence
import SearchClient.Proofs.FailedResponse
import SearchClient.Proofs.FileUpload
import SearchClient.Proofs.FilterGrammar
import SearchClient.Proofs.FirstSource
import SearchClient.Proofs.Form
import SearchClient.Proofs.Gathering
import SearchClient.Proofs.Headers
import SearchClient.Proofs.Host
import SearchClient.Proofs.Json
import SearchClient.Proofs.JsonLine
import SearchClient.Proofs.JsonText
import SearchClient.Proofs.KeyConfinement
import SearchClient.Proofs.Layers
import SearchClient.Proofs.Leaves
import SearchClient.Proofs.LetterCase
import SearchClient.Proofs.Levels
import SearchClient.Proofs.Lists
import SearchClient.Proofs.Loading
import SearchClient.Proofs.Nearest
import SearchClient.Proofs.NumberForms
import SearchClient.Proofs.NumberGrammar
import SearchClient.Proofs.NumberReading
import SearchClient.Proofs.NumberText
import SearchClient.Proofs.OneRequest
import SearchClient.Proofs.Overrides
import SearchClient.Proofs.Parameters
import SearchClient.Proofs.Percent
import SearchClient.Proofs.PlainForms
import SearchClient.Proofs.Precedence
import SearchClient.Proofs.PrintedHits
import SearchClient.Proofs.Proper
import SearchClient.Proofs.QueryPlaces
import SearchClient.Proofs.RangePattern
import SearchClient.Proofs.ReadingBack
import SearchClient.Proofs.Records
import SearchClient.Proofs.Replies
import SearchClient.Proofs.Rounding
import SearchClient.Proofs.Runs
import SearchClient.Proofs.Scheme
import SearchClient.Proofs.Searching
import SearchClient.Proofs.Sending
import SearchClient.Proofs.Shadowed
import SearchClient.Proofs.Split
import SearchClient.Proofs.Surfaces
import SearchClient.Proofs.TableIngress
import SearchClient.Proofs.TwoRoutes
import SearchClient.Proofs.UnknownKeys
import SearchClient.Proofs.Unset
import SearchClient.Proofs.Uploading
import SearchClient.Proofs.Utf8
import SearchClient.Proofs.Variables
import SearchClient.Proofs.Verdicts
import SearchClient.Proofs.Walk
import SearchClient.Proofs.Wrapping
import SearchClient.Proofs.Writing
import SearchClient.Query.Clause
import SearchClient.Query.Filter
import SearchClient.Query.Search
import SearchClient.Query.Sort
import SearchClient.Schema.Catalog
import SearchClient.Schema.Issue
import SearchClient.Schema.Record
import SearchClient.Schema.Shape
import SearchClient.Settings.Argument
import SearchClient.Settings.EnvFile
import SearchClient.Settings.Keyword
import SearchClient.Settings.Layer
import SearchClient.Settings.Load
import SearchClient.Settings.Secret
import SearchClient.Text.Base64
import SearchClient.Text.Blank
import SearchClient.Text.Capital
import SearchClient.Text.Case
import SearchClient.Text.Cased
import SearchClient.Text.Charset
import SearchClient.Text.Codepage
import SearchClient.Text.Composed
import SearchClient.Text.Composite
import SearchClient.Text.Encoding
import SearchClient.Text.Hex
import SearchClient.Text.Mark
import SearchClient.Text.Percent
import SearchClient.Text.Printable
import SearchClient.Text.Punycode
import SearchClient.Text.Quoted
import SearchClient.Text.Range
import SearchClient.Text.Script
import SearchClient.Text.Split
import SearchClient.Text.Surrogate
import SearchClient.Text.Utf8
import SearchClient.Value.Basic
import SearchClient.Value.Display
import SearchClient.Value.Entries
import SearchClient.Value.Misuse
import SearchClient.Value.Pairs
import SearchClient.Yaml.Block
import SearchClient.Yaml.Cursor
import SearchClient.Yaml.Document
import SearchClient.Yaml.Fault
import SearchClient.Yaml.Node
import SearchClient.Yaml.Plain
import SearchClient.Yaml.Quoted
import SearchClient.Yaml.Scalar
import SearchClient.Yaml.Survey
import SearchClient.Yaml.Tag
import SearchClient.Yaml.Token
