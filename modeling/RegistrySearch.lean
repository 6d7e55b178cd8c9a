import RegistrySearch.Arithmetic
import RegistrySearch.Bisection
import RegistrySearch.CommandLine.Arguments
import RegistrySearch.CommandLine.Command
import RegistrySearch.CommandLine.Help
import RegistrySearch.CommandLine.Run
import RegistrySearch.CommandLine.Workspace
import RegistrySearch.Dictionary
import RegistrySearch.Index.Basic
import RegistrySearch.Index.Builder
import RegistrySearch.Index.Json
import RegistrySearch.Json.Decode
import RegistrySearch.Json.Number
import RegistrySearch.Json.Tree
import RegistrySearch.Json.Value
import RegistrySearch.Main
import RegistrySearch.Numeral.Binary64
import RegistrySearch.Numeral.Integer
import RegistrySearch.Numeral.Shortest
import RegistrySearch.Pattern.Basic
import RegistrySearch.Pattern.Bracket
import RegistrySearch.Pattern.Classes
import RegistrySearch.Pattern.Escape
import RegistrySearch.Pattern.Flags
import RegistrySearch.Pattern.Moves
import RegistrySearch.Pattern.Reader
import RegistrySearch.Pattern.Regex
import RegistrySearch.Pattern.Size
import RegistrySearch.Pattern.Utf8
import RegistrySearch.Pattern.Wildcard
import RegistrySearch.Proofs.Bisection
import RegistrySearch.Proofs.Dictionary
import RegistrySearch.Proofs.Index.Building
import RegistrySearch.Proofs.Index.Column
import RegistrySearch.Proofs.Index.Content
import RegistrySearch.Proofs.Index.Finished
import RegistrySearch.Proofs.Index.RoundTrip
import RegistrySearch.Proofs.Index.Statistics
import RegistrySearch.Proofs.Json.Decode
import RegistrySearch.Proofs.Json.Scalars
import RegistrySearch.Proofs.Json.Texts
import RegistrySearch.Proofs.Json.Trees
import RegistrySearch.Proofs.Numeral.Decimal
import RegistrySearch.Proofs.Numeral.TotalOrder
import RegistrySearch.Proofs.Numeral.Truncation
import RegistrySearch.Proofs.Pattern.Anchored
import RegistrySearch.Proofs.Pattern.Bounds
import RegistrySearch.Proofs.Pattern.Brackets
import RegistrySearch.Proofs.Pattern.Closing
import RegistrySearch.Proofs.Pattern.Enclosing
import RegistrySearch.Proofs.Pattern.Globs
import RegistrySearch.Proofs.Pattern.Matching
import RegistrySearch.Proofs.Pattern.Reading
import RegistrySearch.Proofs.Pattern.Wildcards
import RegistrySearch.Proofs.Query.Continuation
import RegistrySearch.Proofs.Query.Cursor
import RegistrySearch.Proofs.Query.CursorSteps
import RegistrySearch.Proofs.Query.Delimited
import RegistrySearch.Proofs.Query.Derivation
import RegistrySearch.Proofs.Query.Drawing
import RegistrySearch.Proofs.Query.Ends
import RegistrySearch.Proofs.Query.FieldGroups
import RegistrySearch.Proofs.Query.Grammar
import RegistrySearch.Proofs.Query.Groups
import RegistrySearch.Proofs.Query.Operands
import RegistrySearch.Proofs.Query.Operators
import RegistrySearch.Proofs.Query.Outline
import RegistrySearch.Proofs.Query.Positions
import RegistrySearch.Proofs.Query.Precedence
import RegistrySearch.Proofs.Query.Reading
import RegistrySearch.Proofs.Query.RoundTrip
import RegistrySearch.Proofs.Query.Shape
import RegistrySearch.Proofs.Query.Suffixes
import RegistrySearch.Proofs.Query.Trees
import RegistrySearch.Proofs.Query.Truth
import RegistrySearch.Proofs.Query.Wildcards
import RegistrySearch.Proofs.Query.Words
import RegistrySearch.Proofs.Record.Projection
import RegistrySearch.Proofs.Record.Repetition
import RegistrySearch.Proofs.Search.Best
import RegistrySearch.Proofs.Search.Boolean
import RegistrySearch.Proofs.Search.Composition
import RegistrySearch.Proofs.Search.Exactness
import RegistrySearch.Proofs.Search.Failure
import RegistrySearch.Proofs.Search.Keys
import RegistrySearch.Proofs.Search.Leaves
import RegistrySearch.Proofs.Search.Numbers
import RegistrySearch.Proofs.Search.Points
import RegistrySearch.Proofs.Search.Prefixes
import RegistrySearch.Proofs.Search.Quoted
import RegistrySearch.Proofs.Search.Ranges
import RegistrySearch.Proofs.Search.Ranking
import RegistrySearch.Proofs.Search.Reordering
import RegistrySearch.Proofs.Search.Scan
import RegistrySearch.Proofs.Search.Sufficiency
import RegistrySearch.Proofs.Search.Unqualified
import RegistrySearch.Proofs.Search.Values
import RegistrySearch.Proofs.Segment.Checksum
import RegistrySearch.Proofs.Segment.Integrity
import RegistrySearch.Proofs.Segment.RoundTrip
import RegistrySearch.Proofs.Service.Call
import RegistrySearch.Proofs.Service.Concurrent
import RegistrySearch.Proofs.Service.Identifiers
import RegistrySearch.Proofs.Service.Outcome
import RegistrySearch.Proofs.Service.Patterns
import RegistrySearch.Proofs.Service.Results
import RegistrySearch.Proofs.Service.Visibility
import RegistrySearch.Proofs.Sorting
import RegistrySearch.Proofs.Store.Directories
import RegistrySearch.Proofs.Store.Isolation
import RegistrySearch.Proofs.Store.Scopes
import RegistrySearch.Proofs.Store.Segments
import RegistrySearch.Proofs.Store.Sessions
import RegistrySearch.Proofs.Store.Traces
import RegistrySearch.Proofs.Text.Boundaries
import RegistrySearch.Proofs.Text.Encoding
import RegistrySearch.Proofs.Text.Numerals
import RegistrySearch.Proofs.Text.Prefixes
import RegistrySearch.Proofs.Text.Runs
import RegistrySearch.Proofs.Text.Stability
import RegistrySearch.Proofs.Text.Stretches
import RegistrySearch.Proofs.Unicode.Alphanumeric
import RegistrySearch.Proofs.Unicode.CodePoints
import RegistrySearch.Proofs.Unicode.Decomposition
import RegistrySearch.Proofs.Unicode.Ordering
import RegistrySearch.Proofs.Unicode.Tables
import RegistrySearch.Query.Clause
import RegistrySearch.Query.Parser
import RegistrySearch.Query.Paths
import RegistrySearch.Query.Printer
import RegistrySearch.Query.SyntaxError
import RegistrySearch.Query.Token
import RegistrySearch.Query.Tree
import RegistrySearch.Record.Document
import RegistrySearch.Record.Path
import RegistrySearch.Record.Projection
import RegistrySearch.Record.Registration
import RegistrySearch.Record.TypedValue
import RegistrySearch.Search.Evaluation
import RegistrySearch.Search.Range
import RegistrySearch.Search.Ranking
import RegistrySearch.Search.Score
import RegistrySearch.Segment.Basic
import RegistrySearch.Segment.Checksum
import RegistrySearch.Service.Caller
import RegistrySearch.Service.Config
import RegistrySearch.Service.Item
import RegistrySearch.Service.Search
import RegistrySearch.Service.Source
import RegistrySearch.Sorting
import RegistrySearch.Store
import RegistrySearch.Store.Session
import RegistrySearch.Text.Component
import RegistrySearch.Text.Normal
import RegistrySearch.Text.Quoted
import RegistrySearch.Text.Rest
import RegistrySearch.Text.Split
import RegistrySearch.Text.Token
import RegistrySearch.Unicode.Alphanumeric
import RegistrySearch.Unicode.Blank
import RegistrySearch.Unicode.Canonical
import RegistrySearch.Unicode.Casing
import RegistrySearch.Unicode.Category
import RegistrySearch.Unicode.Category.Letter
import RegistrySearch.Unicode.Category.Mark
import RegistrySearch.Unicode.Category.Number
import RegistrySearch.Unicode.Category.Punctuation
import RegistrySearch.Unicode.Category.Separator
import RegistrySearch.Unicode.Category.Symbol
import RegistrySearch.Unicode.Combining
import RegistrySearch.Unicode.Decomposition.Letters
import RegistrySearch.Unicode.Decomposition.Singletons
import RegistrySearch.Unicode.Folding
import RegistrySearch.Unicode.Lowercase
import RegistrySearch.Unicode.Property
import RegistrySearch.Unicode.Property.Derived
import RegistrySearch.Unicode.Property.Emoji
import RegistrySearch.Unicode.Property.Listed
import RegistrySearch.Unicode.Property.Sign
import RegistrySearch.Unicode.Ranges
import RegistrySearch.Unicode.Run
import RegistrySearch.Unicode.Script
import RegistrySearch.Unicode.Script.AdlamToGeorgian
import RegistrySearch.Unicode.Script.Basic
import RegistrySearch.Unicode.Script.GlagoliticToMiao
import RegistrySearch.Unicode.Script.ModiToZanabazar
