import GoCoverage.Attribution
import GoCoverage.Command.Arguments
import GoCoverage.Command.Coverage
import GoCoverage.Command.Help
import GoCoverage.Command.Run
import GoCoverage.Conversion
import GoCoverage.Conversion.Note
import GoCoverage.Decimal.Binary64
import GoCoverage.Decimal.Layout
import GoCoverage.Decimal.Rounded
import GoCoverage.Decimal.Shortest
import GoCoverage.Discovery
import GoCoverage.Failure
import GoCoverage.Files.Access
import GoCoverage.Files.Path
import GoCoverage.Files.Snapshot
import GoCoverage.Files.Tree
import GoCoverage.Go.Construct
import GoCoverage.Go.Declaration
import GoCoverage.Go.Grammar
import GoCoverage.Go.Grammar.Expressions
import GoCoverage.Go.Grammar.Statements
import GoCoverage.Go.Grammar.Types
import GoCoverage.Go.Lexeme
import GoCoverage.Go.Scanner
import GoCoverage.Go.SourceFile
import GoCoverage.Ignore
import GoCoverage.Json.Quoted
import GoCoverage.Json.Value
import GoCoverage.Lines
import GoCoverage.Lines.View
import GoCoverage.Main
import GoCoverage.Module.Directive
import GoCoverage.Module.Package
import GoCoverage.Pattern.Assertion
import GoCoverage.Pattern.Basic
import GoCoverage.Pattern.CharSet
import GoCoverage.Pattern.Encoding
import GoCoverage.Pattern.Form
import GoCoverage.Pattern.Generated
import GoCoverage.Pattern.Match
import GoCoverage.Pattern.Property
import GoCoverage.Pattern.Reader
import GoCoverage.Pattern.Reader.Basic
import GoCoverage.Pattern.Reader.Bracket
import GoCoverage.Pattern.Reader.Escape
import GoCoverage.Pattern.Reader.Group
import GoCoverage.Pattern.Reader.Repetition
import GoCoverage.Pattern.Size
import GoCoverage.Profile.Block
import GoCoverage.Profile.Fault
import GoCoverage.Profile.Mode
import GoCoverage.Profile.Reader
import GoCoverage.Proofs.Attribution.Scan
import GoCoverage.Proofs.Command.Delivery
import GoCoverage.Proofs.Command.Stages
import GoCoverage.Proofs.Conversion.Consistent
import GoCoverage.Proofs.Conversion.Found
import GoCoverage.Proofs.Conversion.Gathered
import GoCoverage.Proofs.Conversion.Ignored
import GoCoverage.Proofs.Conversion.Merged
import GoCoverage.Proofs.Conversion.Modules
import GoCoverage.Proofs.Conversion.Order
import GoCoverage.Proofs.Conversion.Regrouped
import GoCoverage.Proofs.Conversion.Run
import GoCoverage.Proofs.Conversion.Sources
import GoCoverage.Proofs.Conversion.Totals
import GoCoverage.Proofs.Conversion.Zeros
import GoCoverage.Proofs.Decimal.Digits
import GoCoverage.Proofs.Decimal.Shortest
import GoCoverage.Proofs.Decimal.Token
import GoCoverage.Proofs.Discovery
import GoCoverage.Proofs.Files.Lexical
import GoCoverage.Proofs.Files.Writing
import GoCoverage.Proofs.Go.Outlines
import GoCoverage.Proofs.Go.SourceOrder
import GoCoverage.Proofs.Go.Spans
import GoCoverage.Proofs.Json.ReadBack
import GoCoverage.Proofs.Json.Reader
import GoCoverage.Proofs.Json.Tokens
import GoCoverage.Proofs.Lines.Least
import GoCoverage.Proofs.Lines.Zeros
import GoCoverage.Proofs.Module.Sources
import GoCoverage.Proofs.Outcome
import GoCoverage.Proofs.Profile.BlockForm
import GoCoverage.Proofs.Profile.BlockLine
import GoCoverage.Proofs.Profile.Bytes
import GoCoverage.Proofs.Profile.Entries
import GoCoverage.Proofs.Profile.Grammar
import GoCoverage.Proofs.Profile.Written
import GoCoverage.Proofs.Report.Alike
import GoCoverage.Proofs.Report.Classes
import GoCoverage.Proofs.Report.JsonReading
import GoCoverage.Proofs.Report.Runs
import GoCoverage.Proofs.Report.SourceLines
import GoCoverage.Proofs.Report.XmlProcessing
import GoCoverage.Proofs.Report.XmlReading
import GoCoverage.Proofs.Text.EncodedLines
import GoCoverage.Proofs.Text.Position
import GoCoverage.Proofs.Xml.Processed
import GoCoverage.Proofs.Xml.Processor
import GoCoverage.Proofs.Xml.ReadBack
import GoCoverage.Proofs.Xml.Reader
import GoCoverage.Report.Grouping
import GoCoverage.Report.Json
import GoCoverage.Report.Rate
import GoCoverage.Report.Tree
import GoCoverage.Report.Xml
import GoCoverage.Text.Blank
import GoCoverage.Text.CodeRange
import GoCoverage.Text.DecimalDigit
import GoCoverage.Text.Identifier
import GoCoverage.Text.Position
import GoCoverage.Text.Split
import GoCoverage.Text.Utf8
import GoCoverage.Unicode.Age
import GoCoverage.Unicode.Binary
import GoCoverage.Unicode.Casing
import GoCoverage.Unicode.Category
import GoCoverage.Unicode.Script
import GoCoverage.Unicode.ScriptExtension
import GoCoverage.Unicode.Segmentation
import GoCoverage.Unicode.Table
import GoCoverage.Unicode.Word
import GoCoverage.Xml.Escape
import GoCoverage.Xml.Tag
import GoCoverage.Proofs.Lines.Insertion
import GoCoverage.Proofs.Lines.Steps
import GoCoverage.Proofs.Attribution.Unordered
import GoCoverage.Proofs.Files.Splitting
import GoCoverage.Proofs.Module.Named
import GoCoverage.Proofs.Go.Receivers
import GoCoverage.Proofs.Report.Partition
import GoCoverage.Proofs.Pattern.Matching
import GoCoverage.Proofs.Pattern.Generated
import GoCoverage.Proofs.Pattern.Reading
import GoCoverage.Proofs.Report.Steps
import GoCoverage.Proofs.Text.Ranges
import GoCoverage.Proofs.Pattern.Sets
