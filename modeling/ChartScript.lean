import ChartScript.Column
import ChartScript.Command
import ChartScript.CommandLine.Invocation
import ChartScript.CommandLine.Switch
import ChartScript.CommandLine.Token
import ChartScript.CommandLine.Usage
import ChartScript.Compile
import ChartScript.Dataset
import ChartScript.Description
import ChartScript.Document.Fault
import ChartScript.Document.Json
import ChartScript.Document.Moment
import ChartScript.Document.Scan
import ChartScript.Document.Toml.Names
import ChartScript.Document.Toml.Reader
import ChartScript.Document.Toml.Scalar
import ChartScript.Document.Value
import ChartScript.Event
import ChartScript.Fault
import ChartScript.Grouping
import ChartScript.Line
import ChartScript.Log
import ChartScript.Main
import ChartScript.Manual
import ChartScript.Mode
import ChartScript.Number.Binary64
import ChartScript.Number.Integer
import ChartScript.Number.Layout
import ChartScript.Number.Leading
import ChartScript.Number.Numeral
import ChartScript.Number.Rounding
import ChartScript.Options.Basic
import ChartScript.Options.Effect
import ChartScript.Options.Pass
import ChartScript.Options.Store
import ChartScript.Path
import ChartScript.Platform
import ChartScript.Plot
import ChartScript.Report
import ChartScript.Row
import ChartScript.Script
import ChartScript.Settings
import ChartScript.Source
import ChartScript.Style
import ChartScript.Text.Basic
import ChartScript.Text.Blank
import ChartScript.Text.CodeRange
import ChartScript.Text.Digit
import ChartScript.Text.Fill
import ChartScript.Text.LineBreak
import ChartScript.Text.Printable
import ChartScript.Text.Quoted
import ChartScript.Text.Separator
import ChartScript.Text.Utf8
import ChartScript.Text.WordChar
import ChartScript.Titles
import ChartScript.Workspace
import ChartScript.Proofs.Words
import ChartScript.Proofs.Collection
import ChartScript.Proofs.Compilation
import ChartScript.Proofs.Placement
import ChartScript.Proofs.Reading
import ChartScript.Proofs.DataBlock
import ChartScript.Proofs.PlotAgreement
import ChartScript.Proofs.Matrix
import ChartScript.Proofs.GroupedChart
import ChartScript.Proofs.Verdict
import ChartScript.Proofs.ValueTable
import ChartScript.Proofs.SetPosition
import ChartScript.Proofs.Framing
import ChartScript.Proofs.DatasetRun
import ChartScript.Proofs.MarksAsData
import ChartScript.Proofs.Rounding
import ChartScript.Proofs.Warnings
import ChartScript.Proofs.NumericOptions
import ChartScript.Proofs.Phases
import ChartScript.Proofs.SourceLines
import ChartScript.Proofs.RowRoundTrip
import ChartScript.Proofs.LogErasure
import ChartScript.Proofs.CommandRun
import ChartScript.Proofs.LineEffects
import ChartScript.Proofs.MatrixCells
import ChartScript.Proofs.ErrorPairs
import ChartScript.Proofs.LogLevels
import ChartScript.Proofs.StoreRun
import ChartScript.Proofs.PlotCommand
import ChartScript.Proofs.QuotedTitles
import ChartScript.Proofs.GroupColors
import ChartScript.Proofs.WordRows
import ChartScript.Proofs.GroupingDirectives
import ChartScript.Proofs.ColumnNarrowing
import ChartScript.Proofs.WrittenIntegers
import ChartScript.Proofs.ColumnSelectors
import ChartScript.Proofs.JsonValues
import ChartScript.Proofs.SettingsDocuments
import ChartScript.Proofs.TitlePieces
import ChartScript.Proofs.NumeralGrammar
import ChartScript.Proofs.RoundingBounds
import ChartScript.Proofs.NumericStyle
import ChartScript.Proofs.OddGaps
import ChartScript.Proofs.DecimalRounding
import ChartScript.Proofs.DecimalText
import ChartScript.Proofs.ShortDecimals
