import WebBaseline.Analyzer
import WebBaseline.Command
import WebBaseline.Command.Ending
import WebBaseline.Command.Features
import WebBaseline.Command.Line
import WebBaseline.Command.Scan
import WebBaseline.Css.Selector
import WebBaseline.Css.Sheet
import WebBaseline.Css.Uses
import WebBaseline.Css.Value
import WebBaseline.Datum
import WebBaseline.Datum.Json
import WebBaseline.Decimal.Shortest
import WebBaseline.Decimal.Written
import WebBaseline.Display.Console
import WebBaseline.Display.Emoji
import WebBaseline.Display.EmojiTable
import WebBaseline.Display.Layout
import WebBaseline.Display.Literal
import WebBaseline.Display.Page
import WebBaseline.Display.Style
import WebBaseline.Display.Tagged
import WebBaseline.Display.Terminal
import WebBaseline.Display.WidthTable
import WebBaseline.Feature
import WebBaseline.FileSystem
import WebBaseline.Glob
import WebBaseline.Issue
import WebBaseline.Log
import WebBaseline.Main
import WebBaseline.Markup.EntityTable
import WebBaseline.Markup.Page
import WebBaseline.Markup.Reference
import WebBaseline.Markup.Tag
import WebBaseline.Markup.Uses
import WebBaseline.Options.Basic
import WebBaseline.Options.Reading
import WebBaseline.Path
import WebBaseline.Proofs.Analyzer
import WebBaseline.Proofs.Command.ExitCode
import WebBaseline.Proofs.Command.Loading
import WebBaseline.Proofs.Command.Precedence
import WebBaseline.Proofs.Css.Broken
import WebBaseline.Proofs.Css.Order
import WebBaseline.Proofs.Css.Uses
import WebBaseline.Proofs.Css.Value
import WebBaseline.Proofs.Display.Page
import WebBaseline.Proofs.DocumentOrder
import WebBaseline.Proofs.FileSystem
import WebBaseline.Proofs.Glob
import WebBaseline.Proofs.Glob.Cutting
import WebBaseline.Proofs.Glob.Pruning
import WebBaseline.Proofs.Glob.Segments
import WebBaseline.Proofs.Options
import WebBaseline.Proofs.Options.Choices
import WebBaseline.Proofs.Options.Overrides
import WebBaseline.Proofs.Options.Scannable
import WebBaseline.Proofs.Report
import WebBaseline.Proofs.Result
import WebBaseline.Proofs.Scan.InMemory
import WebBaseline.Proofs.Scan.Isolation
import WebBaseline.Proofs.Scan.Listing
import WebBaseline.Proofs.Scan.Pool
import WebBaseline.Proofs.Scan.Root
import WebBaseline.Proofs.Scan.Sorted
import WebBaseline.Proofs.Scan.Soundness
import WebBaseline.Proofs.Scan.Watched
import WebBaseline.Proofs.Scan.Workers
import WebBaseline.Proofs.Script.Building
import WebBaseline.Proofs.Script.Calls
import WebBaseline.Proofs.Script.Detection
import WebBaseline.Proofs.Script.Order
import WebBaseline.Proofs.Script.Resolving
import WebBaseline.Proofs.Script.Uses
import WebBaseline.Proofs.Syntax
import WebBaseline.Proofs.Table.Export
import WebBaseline.Proofs.Table.Families
import WebBaseline.Proofs.Table.Index
import WebBaseline.Proofs.Table.Schema
import WebBaseline.Proofs.Text.Utf8
import WebBaseline.Proofs.Text.Words
import WebBaseline.Reading.Reader
import WebBaseline.Reading.Source
import WebBaseline.Report
import WebBaseline.Result
import WebBaseline.Scan
import WebBaseline.Scan.Watched
import WebBaseline.Script.Building
import WebBaseline.Script.Element
import WebBaseline.Script.Expression
import WebBaseline.Script.Function
import WebBaseline.Script.Outline
import WebBaseline.Script.Phrase
import WebBaseline.Script.Resolving
import WebBaseline.Script.Statement
import WebBaseline.Script.Token
import WebBaseline.Script.Type
import WebBaseline.Script.Uses
import WebBaseline.Search
import WebBaseline.Syntax.Node
import WebBaseline.Table.Basic
import WebBaseline.Table.Bundled
import WebBaseline.Table.Reading
import WebBaseline.Text.Case
import WebBaseline.Text.CaseTable
import WebBaseline.Text.PrintableTable
import WebBaseline.Text.Utf8
import WebBaseline.Text.WordTable
import WebBaseline.Text.Words
import WebBaseline.Yaml.Document
import WebBaseline.Yaml.Node
import WebBaseline.Yaml.Scalar
import WebBaseline.Yaml.Stream
import WebBaseline.Yaml.Token
