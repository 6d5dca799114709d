import Exposition.Block
import Exposition.CommandLine.Options
import Exposition.CommandLine.Reader
import Exposition.CommandLine.Word
import Exposition.Difference
import Exposition.Directory
import Exposition.Dump
import Exposition.Failure
import Exposition.Family
import Exposition.FamilyFilter
import Exposition.Json.Basic
import Exposition.Json.Model
import Exposition.Keyword
import Exposition.Labels
import Exposition.Line.Basic
import Exposition.Line.LabelSet
import Exposition.Line.Reader
import Exposition.Line.Token
import Exposition.Main
import Exposition.MetricType
import Exposition.Number.Binary64
import Exposition.Number.Layout
import Exposition.Number.Rounding
import Exposition.Number.Shortest
import Exposition.ParseError
import Exposition.Pattern.Basic
import Exposition.Pattern.Brackets
import Exposition.Pattern.Cursor
import Exposition.Pattern.Escape
import Exposition.Pattern.Expr
import Exposition.Pattern.Fault
import Exposition.Pattern.Matching
import Exposition.Pattern.Meaning
import Exposition.Pattern.Reader
import Exposition.Pattern.Size
import Exposition.Pattern.Tree
import Exposition.Proofs.Anchoring
import Exposition.Proofs.CleanText
import Exposition.Proofs.Concatenation
import Exposition.Proofs.Continuation
import Exposition.Proofs.Difference
import Exposition.Proofs.Document
import Exposition.Proofs.ErrorMessage
import Exposition.Proofs.Exclusion
import Exposition.Proofs.Grouping
import Exposition.Proofs.Json.Decoding
import Exposition.Proofs.Json.Difference
import Exposition.Proofs.Json.Layouts
import Exposition.Proofs.Layout
import Exposition.Proofs.Line.Basic
import Exposition.Proofs.Line.HashLine
import Exposition.Proofs.Line.LabelSet
import Exposition.Proofs.Line.LabelSpelling
import Exposition.Proofs.Line.NumberGrammar
import Exposition.Proofs.Line.Reader
import Exposition.Proofs.Line.Respelling
import Exposition.Proofs.Line.SampleGrammar
import Exposition.Proofs.Line.SampleSpelling
import Exposition.Proofs.Line.SharedEscapes
import Exposition.Proofs.Line.TimeRange
import Exposition.Proofs.Line.Token
import Exposition.Proofs.Line.UnclosedValue
import Exposition.Proofs.Line.Value
import Exposition.Proofs.Line.ViablePrefix
import Exposition.Proofs.Line.Written
import Exposition.Proofs.Merge
import Exposition.Proofs.Number.Rounding
import Exposition.Proofs.Observation
import Exposition.Proofs.Output
import Exposition.Proofs.Pattern.Bare
import Exposition.Proofs.Pattern.Brackets
import Exposition.Proofs.Pattern.Cursor
import Exposition.Proofs.Pattern.Escape
import Exposition.Proofs.Pattern.Opening
import Exposition.Proofs.Pattern.Reader
import Exposition.Proofs.Reading
import Exposition.Proofs.Rearrangement
import Exposition.Proofs.Report.Difference
import Exposition.Proofs.Report.Duplicates
import Exposition.Proofs.Report.Itemized
import Exposition.Proofs.Report.Section
import Exposition.Proofs.Report.Validation
import Exposition.Proofs.RoundTrip
import Exposition.Proofs.Segmentation
import Exposition.Proofs.Session
import Exposition.Proofs.SortedMap
import Exposition.Proofs.Text.Help
import Exposition.Proofs.Text.Literal
import Exposition.Proofs.Text.Unambiguous
import Exposition.Proofs.Validation
import Exposition.Proofs.Verdict
import Exposition.Proofs.WellFormed
import Exposition.Report.Basic
import Exposition.Report.Human
import Exposition.Sample
import Exposition.Session
import Exposition.Sink
import Exposition.SortedMap
import Exposition.Text.Escape
import Exposition.Text.Literal
import Exposition.Text.Similarity
import Exposition.Text.Spacing
import Exposition.Unicode.AgeTable
import Exposition.Unicode.CategoryTable
import Exposition.Unicode.CharSet
import Exposition.Unicode.Folding
import Exposition.Unicode.Property
import Exposition.Unicode.PropertyTable
import Exposition.Unicode.ScriptExtensionTable
import Exposition.Unicode.ScriptTable
import Exposition.Unicode.SegmentationTable
import Exposition.Validation
