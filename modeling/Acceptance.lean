import Acceptance.Awk.Basic
import Acceptance.Awk.Evaluation
import Acceptance.Awk.Machine
import Acceptance.Awk.Number
import Acceptance.Awk.Reader
import Acceptance.Capture
import Acceptance.Case
import Acceptance.Cli.Arguments
import Acceptance.Cli.Help
import Acceptance.Cli.Marked
import Acceptance.Cli.Options
import Acceptance.Cli.Program
import Acceptance.Collaborators
import Acceptance.Command.Expansion
import Acceptance.Command.Quote
import Acceptance.Command.Split
import Acceptance.Command.Template
import Acceptance.CompileFailure
import Acceptance.Completion
import Acceptance.Config
import Acceptance.Config.Decode
import Acceptance.Config.Load
import Acceptance.Config.Render
import Acceptance.Decimal.Binary64
import Acceptance.Decimal.Layout
import Acceptance.Decimal.Shortest
import Acceptance.Decimal.Written
import Acceptance.Difference
import Acceptance.Digest
import Acceptance.Discovery
import Acceptance.Editor.Basic
import Acceptance.Editor.Reader
import Acceptance.Environment
import Acceptance.Fault
import Acceptance.FileTree.Access
import Acceptance.FileTree.Basic
import Acceptance.FileTree.Walk
import Acceptance.Format.Conversion
import Acceptance.Format.Escape
import Acceptance.Format.Mode
import Acceptance.Format.Size
import Acceptance.Hint
import Acceptance.Installation
import Acceptance.IoError
import Acceptance.Json
import Acceptance.Kernel.Call
import Acceptance.Kernel.Files
import Acceptance.Kernel.Image
import Acceptance.Kernel.Launch
import Acceptance.Kernel.Program
import Acceptance.Kernel.Queue
import Acceptance.Kernel.Schedule
import Acceptance.Kernel.World
import Acceptance.Keys
import Acceptance.Locale
import Acceptance.Main
import Acceptance.Outcome
import Acceptance.Path
import Acceptance.Phrases
import Acceptance.Pipeline
import Acceptance.Placeholder
import Acceptance.Process
import Acceptance.Proofs.Absolute
import Acceptance.Proofs.Access
import Acceptance.Proofs.Agreement
import Acceptance.Proofs.AnyOrder
import Acceptance.Proofs.Arguments
import Acceptance.Proofs.ByteOrder
import Acceptance.Proofs.CaseFiles
import Acceptance.Proofs.Comparators
import Acceptance.Proofs.ConfigRoundTrip
import Acceptance.Proofs.ConfigSchema
import Acceptance.Proofs.Course
import Acceptance.Proofs.DefaultCommand
import Acceptance.Proofs.Delivery
import Acceptance.Proofs.Discipline
import Acceptance.Proofs.DistinctKeys
import Acceptance.Proofs.Escaping
import Acceptance.Proofs.FirstConfig
import Acceptance.Proofs.Isolation
import Acceptance.Proofs.JsonReading
import Acceptance.Proofs.Laps
import Acceptance.Proofs.ListingOrder
import Acceptance.Proofs.Listings
import Acceptance.Proofs.Markup
import Acceptance.Proofs.MergedOutput
import Acceptance.Proofs.Named
import Acceptance.Proofs.OnePass
import Acceptance.Proofs.OrderedChoice
import Acceptance.Proofs.Ordinary
import Acceptance.Proofs.OwnPaths
import Acceptance.Proofs.Passing
import Acceptance.Proofs.Places
import Acceptance.Proofs.Presentation
import Acceptance.Proofs.QuotedWords
import Acceptance.Proofs.RawLanguage
import Acceptance.Proofs.Recording
import Acceptance.Proofs.Regions
import Acceptance.Proofs.Remediation
import Acceptance.Proofs.ReportDocument
import Acceptance.Proofs.ReportPage
import Acceptance.Proofs.Rerun
import Acceptance.Proofs.Retold
import Acceptance.Proofs.RunRequests
import Acceptance.Proofs.Separators
import Acceptance.Proofs.ShownNames
import Acceptance.Proofs.SideBySide
import Acceptance.Proofs.Sources
import Acceptance.Proofs.Subdirectories
import Acceptance.Proofs.Substitution
import Acceptance.Proofs.Tally
import Acceptance.Proofs.Told
import Acceptance.Proofs.TwoReports
import Acceptance.Proofs.Utf8Sequences
import Acceptance.Proofs.Visits
import Acceptance.Proofs.Walks
import Acceptance.Proofs.Ways
import Acceptance.Proofs.WholeRun
import Acceptance.Proofs.WrittenDocuments
import Acceptance.Proofs.WrittenOptions
import Acceptance.Proofs.WrittenStrings
import Acceptance.Regex.Attempt
import Acceptance.Regex.Basic
import Acceptance.Regex.Reader
import Acceptance.Regex.Search
import Acceptance.Regex.Threads
import Acceptance.Report.Document
import Acceptance.Report.Lines
import Acceptance.Report.Page
import Acceptance.Report.Seconds
import Acceptance.Run
import Acceptance.Selection
import Acceptance.Session
import Acceptance.Shell.Arithmetic
import Acceptance.Shell.Builtin.Condition
import Acceptance.Shell.Builtin.Printing
import Acceptance.Shell.Builtin.Processes
import Acceptance.Shell.Builtin.Variables
import Acceptance.Shell.Expansion
import Acceptance.Shell.Fields
import Acceptance.Shell.Grammar
import Acceptance.Shell.Interpreter
import Acceptance.Shell.Jobs
import Acceptance.Shell.Pattern
import Acceptance.Shell.Reader
import Acceptance.Shell.Redirection
import Acceptance.Shell.Script
import Acceptance.Shell.Start
import Acceptance.Shell.State
import Acceptance.Style
import Acceptance.Summary
import Acceptance.Text.Alphanumeric
import Acceptance.Text.Blank
import Acceptance.Text.Extender
import Acceptance.Text.Names
import Acceptance.Text.Octets
import Acceptance.Text.Printable
import Acceptance.Text.Quoted
import Acceptance.Text.Replace
import Acceptance.Text.Runs
import Acceptance.Text.Utf8
import Acceptance.Text.Visible
import Acceptance.Toml.Moment
import Acceptance.Toml.Node
import Acceptance.Toml.Number
import Acceptance.Toml.Quoted
import Acceptance.Toml.Reader
import Acceptance.Toml.Value
import Acceptance.Toml.Writer
import Acceptance.Tools.Awk
import Acceptance.Tools.Catalog
import Acceptance.Tools.Cmp
import Acceptance.Tools.Columns
import Acceptance.Tools.Condition
import Acceptance.Tools.Desk
import Acceptance.Tools.Diff
import Acceptance.Tools.Digest
import Acceptance.Tools.Exchange
import Acceptance.Tools.Expression
import Acceptance.Tools.Files
import Acceptance.Tools.Grep
import Acceptance.Tools.Layout
import Acceptance.Tools.Listing
import Acceptance.Tools.Options
import Acceptance.Tools.Paths
import Acceptance.Tools.Printing
import Acceptance.Tools.Running
import Acceptance.Tools.Sed
import Acceptance.Tools.Sort
import Acceptance.Tools.Streams
import Acceptance.Wizard
