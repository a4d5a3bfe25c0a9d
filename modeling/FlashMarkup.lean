import FlashMarkup.CommandLine.Arguments
import FlashMarkup.CommandLine.Command
import FlashMarkup.CommandLine.Console
import FlashMarkup.CommandLine.Help
import FlashMarkup.CommandLine.Run
import FlashMarkup.CommandLine.Session
import FlashMarkup.Compile.Basic
import FlashMarkup.Compile.Error
import FlashMarkup.Compile.File
import FlashMarkup.Compile.Journal
import FlashMarkup.Compile.Place
import FlashMarkup.Compile.Report
import FlashMarkup.Data.Basic
import FlashMarkup.Data.Json
import FlashMarkup.Data.Scalar
import FlashMarkup.Data.Yaml
import FlashMarkup.Document.Attributes
import FlashMarkup.Document.Basic
import FlashMarkup.Document.Expectation
import FlashMarkup.Document.Outline
import FlashMarkup.Document.Parse
import FlashMarkup.Document.Record
import FlashMarkup.Format.BuiltIn
import FlashMarkup.Format.Registry
import FlashMarkup.Grammar.Listing
import FlashMarkup.Grammar.Rule
import FlashMarkup.Grammar.Tag
import FlashMarkup.Grammar.Validate
import FlashMarkup.Html.Body
import FlashMarkup.Html.Escape
import FlashMarkup.Html.Names
import FlashMarkup.Html.Page
import FlashMarkup.Html.Script
import FlashMarkup.Html.Stylesheet
import FlashMarkup.Lexeme
import FlashMarkup.Log.Directive
import FlashMarkup.Log.Event
import FlashMarkup.Log.Filter
import FlashMarkup.Number.Decimal
import FlashMarkup.Number.Double
import FlashMarkup.Number.Shortest
import FlashMarkup.Position.Basic
import FlashMarkup.Position.Listing
import FlashMarkup.Position.Locator
import FlashMarkup.Proofs.CommandLine.Agreement
import FlashMarkup.Proofs.CommandLine.Compiling
import FlashMarkup.Proofs.CommandLine.Inspection
import FlashMarkup.Proofs.CommandLine.Session
import FlashMarkup.Proofs.Compile.ArtifactPaths
import FlashMarkup.Proofs.Compile.Depot
import FlashMarkup.Proofs.Compile.Outcome
import FlashMarkup.Proofs.Compile.Overwriting
import FlashMarkup.Proofs.Compile.ReportReading
import FlashMarkup.Proofs.Compile.RoundTrip
import FlashMarkup.Proofs.Compile.Shelf
import FlashMarkup.Proofs.Data.JsonLayout
import FlashMarkup.Proofs.Data.JsonReading
import FlashMarkup.Proofs.Data.JsonWords
import FlashMarkup.Proofs.Document.Attributes
import FlashMarkup.Proofs.Document.Automaton
import FlashMarkup.Proofs.Document.Description
import FlashMarkup.Proofs.Document.Drawing
import FlashMarkup.Proofs.Document.DrawingReading
import FlashMarkup.Proofs.Document.FirstFailure
import FlashMarkup.Proofs.Document.Grammar
import FlashMarkup.Proofs.Document.Hierarchy
import FlashMarkup.Proofs.Document.InsertionOrder
import FlashMarkup.Proofs.Document.Judgement
import FlashMarkup.Proofs.Document.Placement
import FlashMarkup.Proofs.Document.Reading
import FlashMarkup.Proofs.Document.RecordReading
import FlashMarkup.Proofs.Document.Source
import FlashMarkup.Proofs.Document.Statement
import FlashMarkup.Proofs.Document.Tree
import FlashMarkup.Proofs.Document.Written
import FlashMarkup.Proofs.Format.Registry
import FlashMarkup.Proofs.Grammar.Conformance
import FlashMarkup.Proofs.Grammar.Skeleton
import FlashMarkup.Proofs.Html.Brackets
import FlashMarkup.Proofs.Html.ClassHook
import FlashMarkup.Proofs.Html.Escaping
import FlashMarkup.Proofs.Html.Indentation
import FlashMarkup.Proofs.Html.Markup
import FlashMarkup.Proofs.Html.Recovery
import FlashMarkup.Proofs.Html.Reference
import FlashMarkup.Proofs.Html.Rendering
import FlashMarkup.Proofs.Html.Written
import FlashMarkup.Proofs.Lexeme
import FlashMarkup.Proofs.Lexeme.Classes
import FlashMarkup.Proofs.Lexeme.Spans
import FlashMarkup.Proofs.Lexeme.Tiling
import FlashMarkup.Proofs.Position.Behind
import FlashMarkup.Proofs.Position.Counting
import FlashMarkup.Proofs.Position.Locator
import FlashMarkup.Proofs.Position.Offsets
import FlashMarkup.Proofs.Result
import FlashMarkup.Proofs.Settings.Keys
import FlashMarkup.Proofs.Settings.Layers
import FlashMarkup.Proofs.Settings.Spelling
import FlashMarkup.Proofs.Settings.Writing
import FlashMarkup.Proofs.Storage.Extension
import FlashMarkup.Proofs.Storage.FileName
import FlashMarkup.Proofs.Storage.FileSystem
import FlashMarkup.Proofs.Storage.Frame
import FlashMarkup.Proofs.Text.ByteOrder
import FlashMarkup.Proofs.Text.Delimiter
import FlashMarkup.Proofs.Text.Encoding
import FlashMarkup.Proofs.Text.Lines
import FlashMarkup.Proofs.Text.Run
import FlashMarkup.Proofs.Text.Trim
import FlashMarkup.Proofs.Token.Characters
import FlashMarkup.Proofs.Token.Coverage
import FlashMarkup.Proofs.Token.Layers
import FlashMarkup.Proofs.Token.LineBreak
import FlashMarkup.Proofs.Token.Pieces
import FlashMarkup.Proofs.Token.Valid
import FlashMarkup.Sample
import FlashMarkup.Settings.Basic
import FlashMarkup.Settings.Error
import FlashMarkup.Settings.KeyPath
import FlashMarkup.Settings.Layer
import FlashMarkup.Settings.Merge
import FlashMarkup.Settings.Read
import FlashMarkup.Settings.Value
import FlashMarkup.Storage.FileSystem
import FlashMarkup.Storage.Path
import FlashMarkup.Text.Alphanumeric
import FlashMarkup.Text.Basic
import FlashMarkup.Text.Blank
import FlashMarkup.Text.Bytes
import FlashMarkup.Text.Cased
import FlashMarkup.Text.Lowercase
import FlashMarkup.Text.Quoted
import FlashMarkup.Text.Ranges
import FlashMarkup.Text.Visible
import FlashMarkup.Token.Basic
import FlashMarkup.Token.Listing
import FlashMarkup.Token.Scan
import FlashMarkup.Toml.Basic
import FlashMarkup.Toml.Layout
import FlashMarkup.Toml.Moment
import FlashMarkup.Toml.Quote
import FlashMarkup.Toml.Read
import FlashMarkup.Toml.Reserved
import FlashMarkup.Toml.Table
import FlashMarkup.Toml.Word
import FlashMarkup.Main
