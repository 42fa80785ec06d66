import TypeDocs.Text.Ranges
import TypeDocs.Text.Blank
import TypeDocs.Text.Alphanumeric
import TypeDocs.Text.CaseTable
import TypeDocs.Text.ClusterTable
import TypeDocs.Text.PrintableTable
import TypeDocs.Text.LetterCase
import TypeDocs.Text.Cluster
import TypeDocs.Text.Quoted
import TypeDocs.Text.Naming
import TypeDocs.Decimal.Binary
import TypeDocs.Decimal.Shortest
import TypeDocs.Decimal.Layout
import TypeDocs.Json.Basic
import TypeDocs.Json.Malformed
import TypeDocs.Json.Printer
import TypeDocs.Json.Recase
import TypeDocs.Toml.Malformed
import TypeDocs.Yaml.Malformed
import TypeDocs.Outline.Fault
import TypeDocs.Outline.Basic
import TypeDocs.Outline.Record
import TypeDocs.Json.Scan
import TypeDocs.Json.Reader
import TypeDocs.Text.Affix
import TypeDocs.TypePath
import TypeDocs.Attribute
import TypeDocs.SampleValue
import TypeDocs.TypeDescription
import TypeDocs.Xml.Malformed
import TypeDocs.Xml.Markup
import TypeDocs.Xml.Reference
import TypeDocs.Xml.Attribute
import TypeDocs.Documentation
import TypeDocs.Descriptor.Basic
import TypeDocs.Descriptor.Model
import TypeDocs.Route
import TypeDocs.Descriptor.Controller
import TypeDocs.Format
import TypeDocs.Render.Template
import TypeDocs.Render.Text
import TypeDocs.Decimal.Numeral
import TypeDocs.Yaml.Scalar
import TypeDocs.Yaml.Printer
import TypeDocs.Render.Structured
import TypeDocs.Render
import TypeDocs.FileSystem.Fault
import TypeDocs.FileSystem.Path
import TypeDocs.FileSystem.Basic
import TypeDocs.FileSystem.Save
import TypeDocs.Error
import TypeDocs.Export
import TypeDocs.Samples
import TypeDocs.Manifest.Basic
import TypeDocs.Manifest.Encode
import TypeDocs.Manifest.Decode
import TypeDocs.Manifest.Describe
import TypeDocs.Yaml.Character
import TypeDocs.Yaml.Style
import TypeDocs.Yaml.Cursor
import TypeDocs.Yaml.Token
import TypeDocs.Yaml.Property
import TypeDocs.Yaml.Flow
import TypeDocs.Yaml.Block
import TypeDocs.Yaml.Scan
import TypeDocs.Yaml.Node
import TypeDocs.Text.Digit
import TypeDocs.Yaml.Outline
import TypeDocs.Manifest.Load
import TypeDocs.Toml.Text
import TypeDocs.Toml.Moment
import TypeDocs.Toml.Item
import TypeDocs.Toml.Value
import TypeDocs.Toml.Outline
import TypeDocs.Console
import TypeDocs.Settings.Basic
import TypeDocs.Settings.Decode
import TypeDocs.Settings.Load
import TypeDocs.Command.Failure
import TypeDocs.Logging.Setup
import TypeDocs.Command.Grammar
import TypeDocs.Command.Arguments
import TypeDocs.Logging.Record
import TypeDocs.Logging.Filter
import TypeDocs.Command.Select
import TypeDocs.Command.Session
import TypeDocs.Command.Notes
import TypeDocs.Command.Run
import TypeDocs.Command.Reach
import TypeDocs.Main
import TypeDocs.Proofs.Json.Keys
import TypeDocs.Proofs.Outline.Reading
import TypeDocs.Proofs.Decimal.Text
import TypeDocs.Proofs.Manifest.RoundTrip
import TypeDocs.Proofs.SampleValue
import TypeDocs.Proofs.Json.Literal
import TypeDocs.Proofs.Json.RoundTrip
import TypeDocs.Proofs.Render.Tree
import TypeDocs.Proofs.Documentation.Format
import TypeDocs.Proofs.Documentation.Parse
import TypeDocs.Proofs.Documentation.Unfinished
import TypeDocs.Proofs.Json.Lines
import TypeDocs.Proofs.Yaml.Lines
import TypeDocs.Proofs.Render.Batch
import TypeDocs.Proofs.Render.Table
import TypeDocs.Proofs.Outcome
import TypeDocs.Proofs.Descriptor.Fields
import TypeDocs.Proofs.FileSystem.Places
import TypeDocs.Proofs.FileSystem.Directories
import TypeDocs.Proofs.FileSystem.Saving
import TypeDocs.Proofs.Command.Selection
import TypeDocs.Proofs.Command.Parts
import TypeDocs.Proofs.Command.Export
import TypeDocs.Proofs.Command.Ending
import TypeDocs.Proofs.Command.Arguments
import TypeDocs.Proofs.Command.Delivery
import TypeDocs.Proofs.Command.Stages
import TypeDocs.Proofs.Export.Faults
import TypeDocs.Proofs.Descriptor.Gaps
import TypeDocs.Proofs.Text.Runs
import TypeDocs.Proofs.Text.Words
import TypeDocs.Proofs.Text.LetterCase
import TypeDocs.Proofs.Render.Sections
import TypeDocs.Proofs.Descriptor.Suffix
import TypeDocs.Proofs.FileSystem.Alike
import TypeDocs.Proofs.Command.Pairing
import TypeDocs.Proofs.Command.LogFile
import TypeDocs.Proofs.Command.Verbosity
import TypeDocs.Proofs.Descriptor.Blank
import TypeDocs.Proofs.Documentation.Order
import TypeDocs.Proofs.Descriptor.Argument
import TypeDocs.Proofs.Command.FullName
import TypeDocs.Proofs.Documentation.Standing
import TypeDocs.Proofs.Documentation.Reference
import TypeDocs.Proofs.Documentation.Apart
import TypeDocs.Proofs.Documentation.Spelling
import TypeDocs.Proofs.Documentation.OneLine
import TypeDocs.Proofs.Documentation.Consulted
import TypeDocs.Proofs.Descriptor.Verb
import TypeDocs.Proofs.Descriptor.Route
import TypeDocs.Proofs.TypePath
import TypeDocs.Proofs.Json.Recased
import TypeDocs.Proofs.Settings.Lookup
import TypeDocs.Proofs.Decimal.Range
import TypeDocs.Proofs.Outline.Field
import TypeDocs.Proofs.Outline.Finite
import TypeDocs.Proofs.Json.Finite
import TypeDocs.Proofs.Yaml.Finite
import TypeDocs.Proofs.Manifest.Declared
import TypeDocs.Proofs.Manifest.Cells
import TypeDocs.Proofs.Console.Columns
