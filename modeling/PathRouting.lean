import PathRouting.Bag
import PathRouting.CommandLine.Arguments
import PathRouting.CommandLine.Host
import PathRouting.CommandLine.Run
import PathRouting.Config.Decoding
import PathRouting.Config.Route
import PathRouting.Decimal.Binary
import PathRouting.Decimal.Shortest
import PathRouting.Dispatch.Basic
import PathRouting.Dispatch.Call
import PathRouting.Dispatch.Request
import PathRouting.Dispatch.Route
import PathRouting.Dispatch.Session
import PathRouting.Dispatch.Trace
import PathRouting.Error
import PathRouting.Fixture.Basic
import PathRouting.Fixture.Config
import PathRouting.Fixture.Decoding
import PathRouting.Handlers.Gate
import PathRouting.Handlers.Journal
import PathRouting.Handlers.Reply
import PathRouting.Handlers.Standard
import PathRouting.Json.Basic
import PathRouting.Json.Number
import PathRouting.Json.Reading
import PathRouting.Json.Token
import PathRouting.Main
import PathRouting.Match
import PathRouting.Matcher
import PathRouting.Operation
import PathRouting.Pattern.Error
import PathRouting.Pattern.Lexeme
import PathRouting.Pattern.Program
import PathRouting.Pattern.Reading
import PathRouting.Pattern.Search
import PathRouting.Pattern.Segment
import PathRouting.Proofs.Appending
import PathRouting.Proofs.Backtracking
import PathRouting.Proofs.Building
import PathRouting.Proofs.Caching
import PathRouting.Proofs.Capturing
import PathRouting.Proofs.Coercion
import PathRouting.Proofs.Commands
import PathRouting.Proofs.Commands.Reports
import PathRouting.Proofs.Compiling
import PathRouting.Proofs.DataPairs
import PathRouting.Proofs.Decoding
import PathRouting.Proofs.Decoding.Records
import PathRouting.Proofs.Decoding.Sorting
import PathRouting.Proofs.Dispatch.Calling
import PathRouting.Proofs.Dispatch.Cells
import PathRouting.Proofs.Dispatch.Course
import PathRouting.Proofs.Dispatch.Failures
import PathRouting.Proofs.Dispatch.Fold
import PathRouting.Proofs.Dispatch.InStep
import PathRouting.Proofs.Dispatch.Recorded
import PathRouting.Proofs.Dispatch.Resuming
import PathRouting.Proofs.Dispatch.Script
import PathRouting.Proofs.Dispatch.Service
import PathRouting.Proofs.Dispatch.Validity
import PathRouting.Proofs.Dispatch.Visits
import PathRouting.Proofs.Dispatch.Watching
import PathRouting.Proofs.Dispatching
import PathRouting.Proofs.Expansion
import PathRouting.Proofs.Faultless
import PathRouting.Proofs.Filling
import PathRouting.Proofs.IgnoringCase
import PathRouting.Proofs.Isolation
import PathRouting.Proofs.Loading
import PathRouting.Proofs.Loading.Checks
import PathRouting.Proofs.Matching
import PathRouting.Proofs.Nesting
import PathRouting.Proofs.NormalPaths
import PathRouting.Proofs.Numerals
import PathRouting.Proofs.OptionalParts
import PathRouting.Proofs.Parsing
import PathRouting.Proofs.Pattern.Compiled
import PathRouting.Proofs.Pattern.Emission
import PathRouting.Proofs.Pattern.InPlace
import PathRouting.Proofs.Pattern.Layout
import PathRouting.Proofs.Pattern.Lexing
import PathRouting.Proofs.Pattern.Parentheses
import PathRouting.Proofs.Pattern.Reads
import PathRouting.Proofs.Pattern.Runs
import PathRouting.Proofs.Recording
import PathRouting.Proofs.Refusals
import PathRouting.Proofs.Registering
import PathRouting.Proofs.Rereading
import PathRouting.Proofs.Setting
import PathRouting.Proofs.Slashes
import PathRouting.Proofs.Synthesis
import PathRouting.Proofs.Terminating
import PathRouting.Proofs.Text.Boundaries
import PathRouting.Proofs.Text.ByteOrder
import PathRouting.Proofs.Text.Case
import PathRouting.Proofs.Text.Words
import PathRouting.Proofs.Tracing
import PathRouting.Proofs.TrailingSlash
import PathRouting.Proofs.Validating
import PathRouting.Regex.Basic
import PathRouting.Regex.Bracket
import PathRouting.Regex.ByteRanges
import PathRouting.Regex.CharSet
import PathRouting.Regex.Engine
import PathRouting.Regex.Error
import PathRouting.Regex.Escape
import PathRouting.Regex.Expr
import PathRouting.Regex.Flags
import PathRouting.Regex.Footprint.Backward
import PathRouting.Regex.Footprint.Basic
import PathRouting.Regex.Footprint.Expr
import PathRouting.Regex.Footprint.Forward
import PathRouting.Regex.Footprint.TextTree
import PathRouting.Regex.Normal
import PathRouting.Regex.Program
import PathRouting.Regex.Reading
import PathRouting.Regex.Search
import PathRouting.Registry
import PathRouting.Template
import PathRouting.Text.CaseFolding
import PathRouting.Text.DigitRanges
import PathRouting.Text.HiddenRanges
import PathRouting.Text.NameRanges
import PathRouting.Text.Quoted
import PathRouting.Text.Ranges
import PathRouting.Text.Utf8
import PathRouting.Text.WordRanges
import PathRouting.Value
import PathRouting.Yaml.Lines
import PathRouting.Yaml.Quoted
import PathRouting.Yaml.Stream
import PathRouting.Yaml.Token
