import Footprint.Analysis
import Footprint.Arguments
import Footprint.Batch
import Footprint.Binary64.Arithmetic
import Footprint.Binary64.Basic
import Footprint.Binary64.HalfUp
import Footprint.Binary64.Rounding
import Footprint.Chat
import Footprint.CommandLine
import Footprint.Complexity
import Footprint.Cyclomatic.Expression
import Footprint.Cyclomatic.Formatted
import Footprint.Cyclomatic.Layout
import Footprint.Cyclomatic.Library
import Footprint.Cyclomatic.Outline
import Footprint.Cyclomatic.Parameter
import Footprint.Cyclomatic.Parse
import Footprint.Cyclomatic.Pattern
import Footprint.Cyclomatic.State
import Footprint.Cyclomatic.Statement
import Footprint.Cyclomatic.Token
import Footprint.Decimal.Notation
import Footprint.Decimal.Reading
import Footprint.Decimal.Shortest
import Footprint.Environment
import Footprint.Event
import Footprint.Failure
import Footprint.FileTree
import Footprint.Gate
import Footprint.Json.Decoder
import Footprint.Json.Display
import Footprint.Json.Loose
import Footprint.Json.Printer
import Footprint.Json.Value
import Footprint.Keyed
import Footprint.Keywords
import Footprint.Language
import Footprint.Main
import Footprint.Meter
import Footprint.Metrics
import Footprint.Panel
import Footprint.Path
import Footprint.Pipeline
import Footprint.Pipeline.Source
import Footprint.Projection
import Footprint.Recorded
import Footprint.Report
import Footprint.Review
import Footprint.Script.Declaration
import Footprint.Script.Expression
import Footprint.Script.Function
import Footprint.Script.Grammar
import Footprint.Script.Markup
import Footprint.Script.Module
import Footprint.Script.Parse
import Footprint.Script.Pattern
import Footprint.Script.State
import Footprint.Script.Statement
import Footprint.Script.Target
import Footprint.Script.Token
import Footprint.Script.Type
import Footprint.Settings
import Footprint.Signals
import Footprint.SourceUnit
import Footprint.StatusBar
import Footprint.Syntax.Step
import Footprint.Syntax.Tree
import Footprint.Syntax.Walk
import Footprint.Text.Blank
import Footprint.Text.Digit
import Footprint.Text.Identifier
import Footprint.Text.LineFeeds
import Footprint.Text.LowerCase
import Footprint.Text.Printable
import Footprint.Text.Quoted
import Footprint.Text.Ranges
import Footprint.Text.Utf8
import Footprint.Text.Word
import Footprint.Timestamp
import Footprint.Tracker
import Footprint.Proofs.Binary64.Nearest
import Footprint.Proofs.Binary64.Order
import Footprint.Proofs.Panel.Selection
import Footprint.Proofs.Binary64.Arithmetic
import Footprint.Proofs.Outcome
import Footprint.Proofs.Binary64.HalfUp
import Footprint.Proofs.Binary64.Representable
import Footprint.Proofs.Binary64.Mean
import Footprint.Proofs.Complexity
import Footprint.Proofs.Metrics
import Footprint.Proofs.Coherence
import Footprint.Proofs.Batch
import Footprint.Proofs.Pipeline.Bounds
import Footprint.Proofs.Pipeline.Schedule
import Footprint.Proofs.Pipeline.Steps
import Footprint.Proofs.Pipeline.Newest
import Footprint.Proofs.Pipeline.OneFile
import Footprint.Proofs.Pipeline.OneText
import Footprint.Proofs.Tracker.Calls
import Footprint.Proofs.Tracker.Publications
import Footprint.Proofs.Batch.Completion
import Footprint.Proofs.Binary64.Range
import Footprint.Proofs.Meter.Totality
import Footprint.Proofs.Meter.Figures
import Footprint.Proofs.SourceUnit
import Footprint.Proofs.DirectUnits
import Footprint.Proofs.Path
import Footprint.Proofs.Text.Utf8
import Footprint.Proofs.Metrics.Range
import Footprint.Proofs.Binary64.FixedPoints
import Footprint.Proofs.Metrics.OneFile
import Footprint.Proofs.Meter.Refusal
import Footprint.Proofs.Pipeline.Worlds
import Footprint.Proofs.CommandLine.Requests
import Footprint.Proofs.Tracker.Operations
import Footprint.Proofs.Tracker.Sequential
import Footprint.Proofs.Binary64.Sign
import Footprint.Proofs.Projection
import Footprint.Proofs.Report.Executions
import Footprint.Proofs.Meter.Failures
import Footprint.Proofs.Pipeline.Records
import Footprint.Proofs.Pipeline.RunLog
import Footprint.Proofs.Pipeline.Course
import Footprint.Proofs.Pipeline.Stages
import Footprint.Proofs.Decimal.Reading
import Footprint.Proofs.Projection.Range
import Footprint.Proofs.Metrics.Totality
import Footprint.Proofs.Review
import Footprint.Proofs.Review.Grades
import Footprint.Proofs.Pipeline.Keys
import Footprint.Proofs.Pipeline.Results
import Footprint.Proofs.Pipeline.Uninterrupted
import Footprint.Proofs.Report.Writing
import Footprint.Proofs.Arguments
import Footprint.Proofs.CommandLine.Subjects
import Footprint.Proofs.CommandLine.Endings
import Footprint.Proofs.Decimal.Shortest
import Footprint.Proofs.Json.Number
import Footprint.Proofs.Keywords
import Footprint.Proofs.Syntax.Walk
import Footprint.Proofs.Syntax.Insertion
import Footprint.Proofs.Signals.Tally
import Footprint.Proofs.Signals.Growth
import Footprint.Proofs.Meter.Depth
import Footprint.Proofs.Script.Negations
import Footprint.Proofs.Signals.Depth
import Footprint.Proofs.Environment
import Footprint.Proofs.Pipeline.Environment
import Footprint.Proofs.Json.Text
import Footprint.Proofs.Json.Double
import Footprint.Proofs.Json.RoundTrip
import Footprint.Proofs.Report.RoundTrip
import Footprint.Proofs.Binary64.Approximation
import Footprint.Proofs.Binary64.Within
import Footprint.Proofs.Metrics.Order
import Footprint.Proofs.Metrics.Carbon
import Footprint.Proofs.Pipeline.Carbon
import Footprint.Proofs.Meter.Growth
import Footprint.Proofs.Text.LowerCase
import Footprint.Proofs.Extension
import Footprint.Proofs.Tables
import Footprint.Proofs.Chat.Recovery
import Footprint.Proofs.Review.Shape
import Footprint.Proofs.Review.Suggestion
import Footprint.Proofs.Settings
import Footprint.Proofs.Syntax.Places
import Footprint.Proofs.Signals.Traversal
import Footprint.Proofs.CommandLine.PythonFiles
import Footprint.Proofs.Binary64.Deviation
import Footprint.Proofs.Projection.Trees
import Footprint.Proofs.Environment.Hours
import Footprint.Proofs.LastComponent
import Footprint.Proofs.Binary64.Places
import Footprint.Proofs.Binary64.NearestInteger
