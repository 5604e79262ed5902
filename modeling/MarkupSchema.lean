import MarkupSchema.Component.Attributes
import MarkupSchema.Component.Basic
import MarkupSchema.Component.Registry
import MarkupSchema.Decimal.Positional
import MarkupSchema.Decimal.Shortest
import MarkupSchema.Decode.Component
import MarkupSchema.Decode.Record
import MarkupSchema.Decode.Source
import MarkupSchema.Decode.Strict
import MarkupSchema.Decode.Value
import MarkupSchema.Diagnostics.Code
import MarkupSchema.Diagnostics.Phrasing
import MarkupSchema.Diagnostics.Position
import MarkupSchema.Diagnostics.Record
import MarkupSchema.Diagnostics.Report
import MarkupSchema.Diagnostics.Rule
import MarkupSchema.Diagnostics.Span
import MarkupSchema.Diagnostics.Template
import MarkupSchema.Event
import MarkupSchema.Load
import MarkupSchema.Proofs.AttributeNames
import MarkupSchema.Proofs.AttributeOrder
import MarkupSchema.Proofs.Batches
import MarkupSchema.Proofs.BodyLanguage
import MarkupSchema.Proofs.BuiltMessages
import MarkupSchema.Proofs.CodeOrigins
import MarkupSchema.Proofs.Complaint
import MarkupSchema.Proofs.ComponentEquality
import MarkupSchema.Proofs.DelimiterPairs
import MarkupSchema.Proofs.FallbackReading
import MarkupSchema.Proofs.FieldOrder
import MarkupSchema.Proofs.FirstFault
import MarkupSchema.Proofs.FragmentGrowth
import MarkupSchema.Proofs.FragmentReading
import MarkupSchema.Proofs.FragmentText
import MarkupSchema.Proofs.Interleaving
import MarkupSchema.Proofs.LoadedRecords
import MarkupSchema.Proofs.MarkupLines
import MarkupSchema.Proofs.MarkupReading
import MarkupSchema.Proofs.MessageCuts
import MarkupSchema.Proofs.QuoteStyle
import MarkupSchema.Proofs.RecordShapes
import MarkupSchema.Proofs.RegistryGrowth
import MarkupSchema.Proofs.Rephrasing
import MarkupSchema.Proofs.ReportLines
import MarkupSchema.Proofs.ReportLog
import MarkupSchema.Proofs.SchemaTypes
import MarkupSchema.Proofs.SessionHistory
import MarkupSchema.Proofs.SharedRegistry
import MarkupSchema.Proofs.ShownTokens
import MarkupSchema.Proofs.SpanPlaces
import MarkupSchema.Proofs.SpanSearch
import MarkupSchema.Proofs.TagNames
import MarkupSchema.Proofs.TemplateFill
import MarkupSchema.Proofs.TracelessSteps
import MarkupSchema.Proofs.WellFormed
import MarkupSchema.Proofs.WrittenComponents
import MarkupSchema.Schema.Element
import MarkupSchema.Schema.Fragment
import MarkupSchema.Session
import MarkupSchema.Tag
import MarkupSchema.Text.Blank
import MarkupSchema.Text.Lines
import MarkupSchema.Text.Quoted
import MarkupSchema.Text.Range
import MarkupSchema.Text.Replace
import MarkupSchema.Text.Unprintable
import MarkupSchema.Text.Visible
import MarkupSchema.Yaml.BlockText
import MarkupSchema.Yaml.Document
import MarkupSchema.Yaml.Fold
import MarkupSchema.Yaml.Indent
import MarkupSchema.Yaml.Layout
import MarkupSchema.Yaml.Node
import MarkupSchema.Yaml.Placed
import MarkupSchema.Yaml.Plain
import MarkupSchema.Yaml.Quoted
import MarkupSchema.Yaml.Reading
import MarkupSchema.Yaml.Token
import MarkupSchema.Yaml.Tokens
import MarkupSchema.Yaml.Tree
import MarkupSchema.Yaml.Typed
