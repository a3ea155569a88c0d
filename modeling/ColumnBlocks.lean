import ColumnBlocks.Block.Action
import ColumnBlocks.Block.Layout
import ColumnBlocks.Block.Line
import ColumnBlocks.CommandLine.Arguments
import ColumnBlocks.CommandLine.Command
import ColumnBlocks.CommandLine.Failure
import ColumnBlocks.CommandLine.Grammar
import ColumnBlocks.CommandLine.Help
import ColumnBlocks.CommandLine.Run
import ColumnBlocks.Document
import ColumnBlocks.Environment
import ColumnBlocks.Files.Content
import ColumnBlocks.Files.Document
import ColumnBlocks.Files.Fault
import ColumnBlocks.Files.Job
import ColumnBlocks.Files.Path
import ColumnBlocks.Files.Tree
import ColumnBlocks.Fragment
import ColumnBlocks.Html.Escape
import ColumnBlocks.Html.Page
import ColumnBlocks.Html.Token
import ColumnBlocks.Html.Writer
import ColumnBlocks.Log.Entry
import ColumnBlocks.Main
import ColumnBlocks.Markdown.Autolink
import ColumnBlocks.Markdown.Block
import ColumnBlocks.Markdown.Chars
import ColumnBlocks.Markdown.CodeSpan
import ColumnBlocks.Markdown.Container
import ColumnBlocks.Markdown.Cursor
import ColumnBlocks.Markdown.Definition
import ColumnBlocks.Markdown.Document
import ColumnBlocks.Markdown.Emphasis
import ColumnBlocks.Markdown.Entity
import ColumnBlocks.Markdown.EntityTable
import ColumnBlocks.Markdown.Event
import ColumnBlocks.Markdown.Fragments
import ColumnBlocks.Markdown.Inline
import ColumnBlocks.Markdown.Interruption
import ColumnBlocks.Markdown.Label
import ColumnBlocks.Markdown.Link
import ColumnBlocks.Markdown.Literal
import ColumnBlocks.Markdown.Markup
import ColumnBlocks.Markdown.Opening
import ColumnBlocks.Markdown.Passage
import ColumnBlocks.Markdown.Reader
import ColumnBlocks.Markdown.Table
import ColumnBlocks.Marker.Basic
import ColumnBlocks.Marker.Config
import ColumnBlocks.Marker.Width
import ColumnBlocks.Node.Basic
import ColumnBlocks.Node.PlainText
import ColumnBlocks.Proofs.Agreement
import ColumnBlocks.Proofs.Automaton
import ColumnBlocks.Proofs.Bare
import ColumnBlocks.Proofs.Calls
import ColumnBlocks.Proofs.CarriedText
import ColumnBlocks.Proofs.ClassList
import ColumnBlocks.Proofs.Classification
import ColumnBlocks.Proofs.Columns
import ColumnBlocks.Proofs.Commands
import ColumnBlocks.Proofs.Configuration
import ColumnBlocks.Proofs.Cutting
import ColumnBlocks.Proofs.Decimal
import ColumnBlocks.Proofs.DocumentShape
import ColumnBlocks.Proofs.FileJobs
import ColumnBlocks.Proofs.FileTree
import ColumnBlocks.Proofs.Footprint
import ColumnBlocks.Proofs.Leaves
import ColumnBlocks.Proofs.MarkerCounts
import ColumnBlocks.Proofs.MarkerLines
import ColumnBlocks.Proofs.Markup
import ColumnBlocks.Proofs.MergedText
import ColumnBlocks.Proofs.Nesting
import ColumnBlocks.Proofs.Normalization
import ColumnBlocks.Proofs.OwnWidths
import ColumnBlocks.Proofs.Paragraphs
import ColumnBlocks.Proofs.Partition
import ColumnBlocks.Proofs.Pass
import ColumnBlocks.Proofs.Payloads
import ColumnBlocks.Proofs.PlainText
import ColumnBlocks.Proofs.Presentation
import ColumnBlocks.Proofs.Queue
import ColumnBlocks.Proofs.RoundTrip
import ColumnBlocks.Proofs.Script
import ColumnBlocks.Proofs.SecondPass
import ColumnBlocks.Proofs.Segments
import ColumnBlocks.Proofs.SettingsHistory
import ColumnBlocks.Proofs.Stitching
import ColumnBlocks.Proofs.StoredSettings
import ColumnBlocks.Proofs.Tokens
import ColumnBlocks.Proofs.WidthHint
import ColumnBlocks.Proofs.Wording
import ColumnBlocks.Session
import ColumnBlocks.Settings.Basic
import ColumnBlocks.Settings.File
import ColumnBlocks.Settings.Location
import ColumnBlocks.Settings.Toml
import ColumnBlocks.Text.Alphanumeric
import ColumnBlocks.Text.Basic
import ColumnBlocks.Text.CaseFold
import ColumnBlocks.Text.Digit
import ColumnBlocks.Text.Iterate
import ColumnBlocks.Text.Lines
import ColumnBlocks.Text.Punctuation
import ColumnBlocks.Text.Quoted
import ColumnBlocks.Text.Ranges
import ColumnBlocks.Text.Space
import ColumnBlocks.Toml.DateTime
import ColumnBlocks.Toml.Number
import ColumnBlocks.Toml.Quoted
import ColumnBlocks.Toml.Reader
import ColumnBlocks.Toml.Value
