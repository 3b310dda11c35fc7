import ItemStore.Base64
import ItemStore.Document
import ItemStore.Entries
import ItemStore.Error
import ItemStore.Frame.Basic
import ItemStore.Frame.Builder
import ItemStore.Frame.Cell
import ItemStore.Frame.Decode
import ItemStore.Frame.Growing
import ItemStore.Frame.InPlace
import ItemStore.Frame.Wire
import ItemStore.Json.Basic
import ItemStore.Json.Printer
import ItemStore.Json.Reader
import ItemStore.Json.Record
import ItemStore.Json.Written
import ItemStore.Number.Binary64
import ItemStore.Number.Notation
import ItemStore.Number.Numeral
import ItemStore.Number.Rounding
import ItemStore.Number.Shortest
import ItemStore.Number.Trimmed
import ItemStore.Query.Basic
import ItemStore.Query.Collection
import ItemStore.Query.Limits
import ItemStore.Query.NativeOrder
import ItemStore.Query.Service
import ItemStore.Query.Sort
import ItemStore.Query.Statement
import ItemStore.Query.Tables
import ItemStore.Store
import ItemStore.Table
import ItemStore.Text.Alphabetic
import ItemStore.Text.Blank
import ItemStore.Text.CaseFold
import ItemStore.Text.Letter
import ItemStore.Text.Quoted
import ItemStore.Text.Ranges
import ItemStore.Text.Search
import ItemStore.Text.Utf8
import ItemStore.Text.Visible
import ItemStore.Text.Word
import ItemStore.Time.Calendar
import ItemStore.Time.Fields
import ItemStore.Time.Format
import ItemStore.Time.Instant
import ItemStore.Time.Layout
import ItemStore.Time.Reader
import ItemStore.Toml.Reader
import ItemStore.Toml.Scalar
import ItemStore.Toml.Tree
import ItemStore.Upload.CapacityTotals
import ItemStore.Upload.Coercion
import ItemStore.Upload.Literal
import ItemStore.Upload.Plan
import ItemStore.Upload.Preset
import ItemStore.Upload.Request
import ItemStore.Upload.Service
import ItemStore.Upload.Settings
import ItemStore.Upload.Shelf
import ItemStore.Upload.Statement
import ItemStore.Upload.Template
import ItemStore.Value.Basic
import ItemStore.Value.Generic
import ItemStore.Value.Wire
import ItemStore.Proofs.Frame.Growth
import ItemStore.Proofs.Frame.Alignment
import ItemStore.Proofs.Query.CollectionRun
import ItemStore.Proofs.Query.CollectionOutcome
import ItemStore.Proofs.Query.StableOrder
import ItemStore.Proofs.Query.RowOrder
import ItemStore.Proofs.Query.OrderPlan
import ItemStore.Proofs.Query.QuoteBoundary
import ItemStore.Proofs.Text.ByteOrder
import ItemStore.Proofs.Text.Pieces
import ItemStore.Proofs.Upload.GeneratedText
import ItemStore.Proofs.Upload.PlanItems
import ItemStore.Proofs.Upload.Sending
import ItemStore.Proofs.Query.LiteralContents
import ItemStore.Proofs.Query.QueryRun
import ItemStore.Proofs.Query.RequestedOrder
import ItemStore.Proofs.Query.PageBoundaries
import ItemStore.Proofs.Query.KeyOrder
import ItemStore.Proofs.Upload.PlanAcceptance
import ItemStore.Proofs.Query.LargerBounds
import ItemStore.Proofs.Query.BatchAnswers
import ItemStore.Proofs.Frame.ColumnIndependence
import ItemStore.Proofs.Entries
import ItemStore.Proofs.Text.Base64Text
import ItemStore.Proofs.Json.Lossless
import ItemStore.Proofs.Value.WireRoundTrip
import ItemStore.Proofs.Query.SortAgreement
import ItemStore.Proofs.Number.NearestInteger
import ItemStore.Proofs.Number.NearestValue
import ItemStore.Proofs.Number.ValueOrder
import ItemStore.Proofs.Number.Numerals
import ItemStore.Proofs.Number.DecimalValue
import ItemStore.Proofs.Number.ShortestText
import ItemStore.Proofs.Number.SixPlaces
import ItemStore.Proofs.Query.NumberOrder
import ItemStore.Proofs.Frame.ColumnRun
import ItemStore.Proofs.Frame.IntegerText
import ItemStore.Proofs.Upload.NumberCoercion
import ItemStore.Proofs.Frame.LaterValues
import ItemStore.Proofs.Frame.ColumnHistory
import ItemStore.Proofs.Frame.RejectedRow
import ItemStore.Proofs.Json.ReaderSteps
import ItemStore.Proofs.Json.NumberRange
import ItemStore.Proofs.Number.Finiteness
import ItemStore.Proofs.Value.Readable
import ItemStore.Proofs.Json.TextStart
import ItemStore.Proofs.Upload.ReadableParameters
import ItemStore.Proofs.Frame.InPlaceAddition
import ItemStore.Proofs.Frame.FirstRejection
import ItemStore.Proofs.Query.SourceText
import ItemStore.Proofs.Query.IndexedSource
import ItemStore.Proofs.Query.ProjectedSource
import ItemStore.Proofs.Text.LetterCase
import ItemStore.Proofs.Query.OrderClause
import ItemStore.Proofs.Query.KeyComparison
import ItemStore.Proofs.Query.NameComparison
import ItemStore.Proofs.Query.PinnedSelect
import ItemStore.Proofs.Upload.PlaceholderCuts
import ItemStore.Proofs.Upload.TemplateParts
import ItemStore.Proofs.Upload.PreviewText
import ItemStore.Proofs.Upload.FieldOrder
import ItemStore.Proofs.Upload.KeyFields
import ItemStore.Proofs.Upload.SelectResults
import ItemStore.Proofs.Query.RepeatedSort
import ItemStore.Proofs.Query.BlankFields
import ItemStore.Proofs.Json.StringGrammar
import ItemStore.Proofs.Json.RawControls
import ItemStore.Proofs.Text.EncodedSymbols
import ItemStore.Proofs.Upload.RequestBody
import ItemStore.Proofs.Json.StringLiteral
import ItemStore.Proofs.Upload.ErrorText
import ItemStore.Proofs.Time.CalendarDays
import ItemStore.Proofs.Time.EpochInstants
import ItemStore.Proofs.Number.ExponentText
import ItemStore.Proofs.Json.PrintedText
import ItemStore.Proofs.Value.GenericRoundTrip
import ItemStore.Proofs.Upload.WrittenSettings
import ItemStore.Proofs.Frame.WrittenFrame
import ItemStore.Proofs.Upload.SavedPresets
import ItemStore.Proofs.Upload.PresetCatalog
import ItemStore.Proofs.Upload.CapacitySums
import ItemStore.Proofs.Query.FailureStatus
import ItemStore.Proofs.Store.NameListing
import ItemStore.Proofs.Query.EmptyNames
