import JapaneseProse.Launcher
import JapaneseProse.Loose.Agreement
import JapaneseProse.Main
import JapaneseProse.Service
import JapaneseProse.Startup
import JapaneseProse.Json.Display
import JapaneseProse.Proofs.Text.Edits
import JapaneseProse.Proofs.Rule.Repetition
import JapaneseProse.Proofs.Rule.Doubling
import JapaneseProse.Proofs.Rule.Neighbour
import JapaneseProse.Proofs.Rule.Gap
import JapaneseProse.Proofs.Line.Changes
import JapaneseProse.Proofs.Line.Order
import JapaneseProse.Proofs.Line.Clean
import JapaneseProse.Proofs.Numeral.Conversion
import JapaneseProse.Proofs.Rule.Replacement
import JapaneseProse.Proofs.Text.Lines
import JapaneseProse.Proofs.Line.Conversion
import JapaneseProse.Proofs.Document
import JapaneseProse.Proofs.Rule.Spans
import JapaneseProse.Proofs.Line.Reports
import JapaneseProse.Proofs.Line.Style
import JapaneseProse.Proofs.Line.Exclamations
import JapaneseProse.Proofs.Document.Findings
import JapaneseProse.Proofs.Document.Lines
import JapaneseProse.Proofs.ReplaceMap.Sync
import JapaneseProse.Engine.Session
import JapaneseProse.Proofs.Engine.History
import JapaneseProse.Proofs.Numeral.Extent
import JapaneseProse.Numeral.Reading
import JapaneseProse.Proofs.Numeral.Reading
import JapaneseProse.Engine.Export
import JapaneseProse.Proofs.Engine.Overrides
import JapaneseProse.Proofs.Json.Reader
import JapaneseProse.Proofs.Profile.Reader
import JapaneseProse.Proofs.CommandLine.Engine
import JapaneseProse.Engine.Store
import JapaneseProse.Proofs.Profile.Export
import JapaneseProse.Proofs.Engine.Store
import JapaneseProse.Proofs.Engine.Rebuild
import JapaneseProse.Proofs.Engine.Faults
import JapaneseProse.Proofs.Rule.Gap.Places
import JapaneseProse.Proofs.Numeral.Grouping
import JapaneseProse.Proofs.Text.Written
import JapaneseProse.Proofs.Document.Written
import JapaneseProse.Proofs.Rule.Neighbour.Places
import JapaneseProse.Proofs.Rule.Repetition.Places
import JapaneseProse.Proofs.Rule.Doubling.Places
import JapaneseProse.Proofs.Rule.LineEnd.Rows
import JapaneseProse.Proofs.Rule.Neighbour.Pairs
import JapaneseProse.Proofs.Text.Quantity
import JapaneseProse.Proofs.Rule.Replacement.AtOnce
import JapaneseProse.Proofs.Profile.Validation
import JapaneseProse.Proofs.Engine.LiteralTables
