import ProseLinter.Text.Alphanumeric
import ProseLinter.Text.Blank
import ProseLinter.Text.Punctuation
import ProseLinter.Text.Quoted
import ProseLinter.Text.LowerCase
import ProseLinter.Text.Search
import ProseLinter.Decimal.Shortest
import ProseLinter.Json.Printer
import ProseLinter.Json.Reader
import ProseLinter.Json.Decode
import ProseLinter.Json.Schema
import ProseLinter.Document.PlainText
import ProseLinter.Rule.Message
import ProseLinter.Files.FileTree
import ProseLinter.Rule.Catalog
import ProseLinter.Rule.Pattern
import ProseLinter.Config.Basic
import ProseLinter.Loading.Module
import ProseLinter.Loading.Resolver
import ProseLinter.Loading.Plugin
import ProseLinter.Engine.Basic
import ProseLinter.CommandLine.Run
import ProseLinter.Markdown.CharacterReference
import ProseLinter.Markdown.Tree
import ProseLinter.Text.UpperCase
import ProseLinter.Markdown.Attention
import ProseLinter.Markdown.Definition
import ProseLinter.Markdown.Autolink
import ProseLinter.Markdown.Html
import ProseLinter.Markdown.Phrasing
import ProseLinter.Main
import ProseLinter.Proofs.Registry.Consistent
import ProseLinter.Proofs.Registry.Requests
import ProseLinter.Proofs.Registry.Source
import ProseLinter.Proofs.Registry.Outline
import ProseLinter.Proofs.Registry.Newcomers
import ProseLinter.Proofs.Registry.Correspondence
import ProseLinter.Proofs.Loading.Resolution
import ProseLinter.Proofs.Engine.Step
import ProseLinter.Proofs.Engine.Requests
import ProseLinter.Proofs.Engine.Loading
import ProseLinter.Proofs.Engine.Call
import ProseLinter.Proofs.Engine.History
import ProseLinter.Proofs.Engine.FailedLoad
import ProseLinter.Proofs.Engine.Options
import ProseLinter.Proofs.Engine.ActiveRules
import ProseLinter.Proofs.Engine.Sources
import ProseLinter.Proofs.Engine.Resumption
import ProseLinter.Proofs.Engine.SharedRegistry
import ProseLinter.Proofs.Engine.OptionFlow
import ProseLinter.Proofs.Engine.Alike
import ProseLinter.Proofs.Engine.Interleaving
import ProseLinter.Proofs.Engine.Batch
import ProseLinter.Proofs.Text.Slice
import ProseLinter.Proofs.Text.Piece
import ProseLinter.Proofs.Rule.Search
import ProseLinter.Proofs.Rule.Safety
import ProseLinter.Proofs.Document.Position
import ProseLinter.Proofs.Document.Paragraph
import ProseLinter.Proofs.Rule.Locality
import ProseLinter.Proofs.Files.Path
import ProseLinter.Proofs.Config.Naming
import ProseLinter.Proofs.Loading.Candidate
import ProseLinter.Proofs.Loading.NameAndPath
import ProseLinter.Proofs.Loading.RuleName
import ProseLinter.Proofs.Engine.Lookup
import ProseLinter.Proofs.Files.Below
import ProseLinter.Proofs.Loading.Containment
import ProseLinter.Proofs.Engine.Opened
import ProseLinter.Proofs.Engine.Severity
import ProseLinter.Proofs.Config.Schema
import ProseLinter.Proofs.Rule.Known
import ProseLinter.Proofs.Engine.TextAsFile
import ProseLinter.Proofs.Json.Written
import ProseLinter.Proofs.Json.Strict
import ProseLinter.Proofs.Json.Lenient
import ProseLinter.Proofs.Report.JsonRoundTrip
import ProseLinter.Proofs.Text.Lines
import ProseLinter.Proofs.Report.LinePerMessage
import ProseLinter.Proofs.Json.Complaint
import ProseLinter.Proofs.Rule.OneLine
import ProseLinter.Proofs.Engine.LineReports
import ProseLinter.Proofs.Report.Width
import ProseLinter.Proofs.Files.Write
import ProseLinter.Proofs.CommandLine.Stages
import ProseLinter.Proofs.CommandLine.WordTwice
import ProseLinter.Proofs.CommandLine.Run
import ProseLinter.Proofs.Document.LineSearch
import ProseLinter.Proofs.Document.Runs
import ProseLinter.Proofs.Text.Occurrence
import ProseLinter.Proofs.Rule.PatternReport
import ProseLinter.Proofs.Engine.Extensions
import ProseLinter.Proofs.Text.Trim
import ProseLinter.Proofs.Rule.Scan
import ProseLinter.Proofs.Rule.MarkerReport
import ProseLinter.Proofs.Rule.MarkerComparison
import ProseLinter.Proofs.Rule.SentenceReport
import ProseLinter.Proofs.Rule.Words
import ProseLinter.Proofs.Rule.DoubledWordReport
import ProseLinter.Proofs.Loading.ExplicitPath
import ProseLinter.Proofs.Loading.SearchOrder
import ProseLinter.Proofs.Loading.PluginLoad
import ProseLinter.Proofs.Config.FirstOccurrences
import ProseLinter.Proofs.Config.NormalForm
import ProseLinter.Proofs.Report.Placeholder
import ProseLinter.Proofs.Report.Filling
import ProseLinter.Proofs.Report.SinglePass
import ProseLinter.Proofs.Markdown.Visible
import ProseLinter.Proofs.Document.PositionOrder
import ProseLinter.Proofs.Rule.ReadingOrder
import ProseLinter.Proofs.Report.Alignment
import ProseLinter.Proofs.Config.OptionViews
import ProseLinter.Proofs.Report.FormatLookup
import ProseLinter.Proofs.Document.TreeJson
import ProseLinter.Proofs.Report.Totals
import ProseLinter.Proofs.CommandLine.Verdict
import ProseLinter.Proofs.Files.Directory
import ProseLinter.Proofs.Loading.DirectoryOrder
import ProseLinter.Proofs.Files.Location
import ProseLinter.Proofs.Config.Discovery
import ProseLinter.Proofs.Document.PositionEmbedding
import ProseLinter.Proofs.Document.DocumentOrder
