import TypedSheets.Main
import TypedSheets.Proofs.Record.Growth
import TypedSheets.Proofs.Record.Typing
import TypedSheets.Proofs.Diagnostics.Flags
import TypedSheets.Proofs.Join.Linking
import TypedSheets.Proofs.Join.Conservation
import TypedSheets.Proofs.Join.Delivery
import TypedSheets.Proofs.Join.Typing
import TypedSheets.Proofs.Pipeline.Failure
import TypedSheets.Proofs.Conversion.Typing
import TypedSheets.Proofs.Materialization.Cells
import TypedSheets.Proofs.Materialization.Typing
import TypedSheets.Proofs.Types.Resolution
import TypedSheets.Proofs.Schema.Agreement
import TypedSheets.Proofs.Schema.Declarations
import TypedSheets.Proofs.Materialization.Rows
import TypedSheets.Proofs.Join.Keyless
import TypedSheets.Proofs.Pipeline.Generation
import TypedSheets.Proofs.Text.Split
import TypedSheets.Proofs.Grid.Delimited
import TypedSheets.Proofs.Grid.Slices
import TypedSheets.Proofs.Materialization.Versions
import TypedSheets.Proofs.Json.Number
import TypedSheets.Proofs.Json.Scalar
import TypedSheets.Proofs.Json.RoundTrip
import TypedSheets.Proofs.Value.RoundTrip
import TypedSheets.Proofs.Files.Location
import TypedSheets.Proofs.Table.Ascending
import TypedSheets.Proofs.Store.Reopening
import TypedSheets.Proofs.Materialization.Naming
import TypedSheets.Proofs.Pipeline.Persistence
import TypedSheets.Proofs.Grid.Writing
import TypedSheets.Proofs.Settings.Order
import TypedSheets.Proofs.Pipeline.Order
import TypedSheets.Proofs.Join.Footprint
import TypedSheets.Proofs.Pipeline.Effects
import TypedSheets.Proofs.Pipeline.Enumerations
import TypedSheets.Proofs.Conversion.SameTypes
import TypedSheets.Proofs.Pipeline.Rearrangement
import TypedSheets.Proofs.Pipeline.Upkeep
import TypedSheets.Proofs.Command.Selection
import TypedSheets.Proofs.Diagnostics.Agreement
import TypedSheets.Proofs.Pipeline.Reports
import TypedSheets.Proofs.Settings.RoundTrip
import TypedSheets.Proofs.Pipeline.IgnoredColumns
import TypedSheets.Proofs.Pipeline.Saving
import TypedSheets.Proofs.Conversion.Qualified
import TypedSheets.Proofs.Conversion.Elements
import TypedSheets.Proofs.Conversion.Ranges
import TypedSheets.Proofs.Numeral.Finiteness
import TypedSheets.Proofs.Conversion.Finiteness
import TypedSheets.Proofs.Conversion.Acceptance
import TypedSheets.Proofs.Conversion.Arrays
import TypedSheets.Proofs.Types.AutomaticFlags
import TypedSheets.Proofs.Conversion.BlankElements
import TypedSheets.Proofs.Conversion.Spellings
import TypedSheets.Proofs.Types.Declaration
import TypedSheets.Proofs.Grid.Grammar
import TypedSheets.Proofs.Grid.Stability
import TypedSheets.Proofs.Materialization.Slugs
import TypedSheets.Proofs.Materialization.Numbers
import TypedSheets.Proofs.Materialization.DistinctNames
import TypedSheets.Proofs.Store.Refusal
import TypedSheets.Proofs.Synthesis.Sources
import TypedSheets.Proofs.SheetText.LeadingLines
import TypedSheets.Proofs.Types.Doubling
import TypedSheets.Proofs.Types.Names
import TypedSheets.Proofs.Materialization.Stems
import TypedSheets.Proofs.Pipeline.RecordFiles
