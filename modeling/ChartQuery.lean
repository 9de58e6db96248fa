import ChartQuery.Main
import ChartQuery.Command.FileTree
import ChartQuery.Proofs.Compilation.Sorting
import ChartQuery.Proofs.Compilation.InnermostSlots
import ChartQuery.Proofs.Compilation.Nesting
import ChartQuery.Proofs.Catalog.Handlers
import ChartQuery.Proofs.Compilation.Parity
import ChartQuery.Proofs.Validation.Options
import ChartQuery.Proofs.Validation.Formats
import ChartQuery.Proofs.Validation.Entries
import ChartQuery.Proofs.Validation.Violations
import ChartQuery.Proofs.Validation.Grammar
import ChartQuery.Proofs.Compilation.Validated
import ChartQuery.Proofs.Decoding.Names
import ChartQuery.Proofs.Decoding.Columns
import ChartQuery.Proofs.Decoding.Conforming
import ChartQuery.Proofs.Decoding.Rows
import ChartQuery.Proofs.Decoding.Alignment
import ChartQuery.Proofs.Chart.Options
import ChartQuery.Proofs.Compilation.Groupings
import ChartQuery.Proofs.Compilation.SortClauses
import ChartQuery.Proofs.Compilation.Faults
import ChartQuery.Proofs.Compilation.SuppliedOptions
import ChartQuery.Proofs.Validation.AllowedValues
import ChartQuery.Proofs.Compilation.Levels
import ChartQuery.Proofs.Compilation.AggregationTypes
import ChartQuery.Proofs.Json.Record
import ChartQuery.Proofs.Slot.Document
import ChartQuery.Proofs.Aggregation.Document
import ChartQuery.Proofs.Compilation.Documents
import ChartQuery.Proofs.Decoding.Paths
import ChartQuery.Proofs.Decoding.Steps
import ChartQuery.Proofs.Decoding.Enumeration
import ChartQuery.Proofs.Compilation.Layout
import ChartQuery.Proofs.Decoding.Renaming
import ChartQuery.Proofs.Decoding.Defects
import ChartQuery.Proofs.Decoding.Unread
import ChartQuery.Proofs.Decoding.FirstDefect
import ChartQuery.Proofs.Compilation.Spelling
import ChartQuery.Proofs.Compilation.Unordered
import ChartQuery.Proofs.Validation.Arrangement
import ChartQuery.Proofs.Validation.Defaults
import ChartQuery.Proofs.Text.Decimal
import ChartQuery.Proofs.Chart.Order
import ChartQuery.Proofs.Chart.Document
import ChartQuery.Proofs.Catalog.Consistency
import ChartQuery.Proofs.Binary64.Rounding
import ChartQuery.Proofs.Compilation.Completeness
import ChartQuery.Proofs.Compilation.Placement
import ChartQuery.Proofs.Validation.Literals
import ChartQuery.Proofs.Home
