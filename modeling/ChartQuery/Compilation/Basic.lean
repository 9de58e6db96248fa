import ChartQuery.Catalog.Basic
import ChartQuery.Compilation.Compiled
import ChartQuery.Compilation.Error
import ChartQuery.Compilation.Settings

/-!
# Compiling charts

The entries of the main axis become groupings, one nested in the other, with
the identifiers `0`, `1` and so on from the outside; the entries of the value
axis become metrics inside the innermost grouping.  With `M` groupings the
metric of value position `j` has the identifier `M + 1 + j`.  A document count
needs no metric; its slot is `count`.

Compilation first finds the handler of every entry, main axis first, and then
builds the request from the inside out.  Sort clauses are read while building,
so of several bad ones the innermost is reported.

A top-values grouping that is sorted by a metric needs that metric among its
direct children.  `placeAuxiliary` looks for a place: an unused identifier, a
sibling that computes the same, or the metric's own identifier.
-/

namespace ChartQuery

/-- A main entry with the grouping that it asks for. -/
structure Grouping where
  entry : AxisEntry
  kind : BucketKind
deriving DecidableEq

/-- A value entry with its metric, or without one for a document count. -/
structure Measure where
  entry : AxisEntry
  kind : Option MetricKind
deriving DecidableEq

namespace Catalog

/-- The handler of an entry. -/
def handler (catalog : Catalog) (entry : AxisEntry) :
    Except CompileError Handler :=
  match catalog.function? entry.function with
  | none => .error (.unknownFunction entry.function)
  | some function =>
      match function.handler with
      | none => .error (.missingAggregationType function.id)
      | some handler => .ok handler

/-- The grouping that a main entry asks for. -/
def grouping (catalog : Catalog) (entry : AxisEntry) :
    Except CompileError Grouping := do
  match ← catalog.handler entry with
  | .bucket kind => return ⟨entry, kind⟩
  | .metric _ => .error (.functionAxisMismatch entry.function .main)
  | .docCount => .error (.functionAxisMismatch entry.function .main)

/-- The measure that a value entry asks for. -/
def measure (catalog : Catalog) (entry : AxisEntry) :
    Except CompileError Measure := do
  match ← catalog.handler entry with
  | .metric kind => return ⟨entry, some kind⟩
  | .docCount => return ⟨entry, none⟩
  | .bucket _ => .error (.functionAxisMismatch entry.function .value)

end Catalog

/-- Resolve entries one after the other. -/
def resolveAll {α : Type} (resolve : AxisEntry → Except CompileError α) :
    List AxisEntry → Except CompileError (List α)
  | [] => .ok []
  | entry :: rest => do
      let first ← resolve entry
      let more ← resolveAll resolve rest
      return first :: more

/-! ## The innermost level -/

/-- The metrics of the value axis, numbered from `id`; counts take no part. -/
def metrics (id : Nat) : List Measure → Aggregations
  | [] => []
  | ⟨entry, some kind⟩ :: rest =>
      (id.repr, .metric kind entry.field) :: metrics (id + 1) rest
  | ⟨_, none⟩ :: rest => metrics (id + 1) rest

/-- The identifier that the slot of a measure has. -/
def Measure.slotId (id : Nat) (measure : Measure) : String :=
  if measure.kind.isSome then id.repr else countId

/-- The slots of the value axis, numbered from `id`, for positions from `position`. -/
def valueSlots (id position : Nat) : List Measure → List (String × Slot)
  | [] => []
  | measure :: rest =>
      (measure.slotId id, .value position) ::
        valueSlots (id + 1) (position + 1) rest

/-! ## Sort clauses -/

/-- The sort key for the number of documents. -/
def countKey : String := "_count"

/--
Give a metric a place among siblings and return its identifier.  The auxiliary
identifier is taken if it is free or already computes the same; otherwise the
metric has to be there under its own identifier.
-/
def placeAuxiliary (siblings : Aggregations) (auxiliary : Nat) (own : Option Nat)
    (metric : Aggregation) : Except CompileError (String × Aggregations) :=
  match Keyed.get? auxiliary.repr siblings with
  | none => .ok (auxiliary.repr, siblings ++ [(auxiliary.repr, metric)])
  | some existing =>
      if existing = metric then .ok (auxiliary.repr, siblings)
      else
        match own with
        | none => .error (.aggregationIdCollision auxiliary.repr)
        | some id =>
            if Keyed.get? id.repr siblings = some metric then
              .ok (id.repr, siblings)
            else .error (.aggregationIdCollision auxiliary.repr)

/-- The measure at a position of the value axis. -/
def measureAt (measures : List Measure) (index : Int) :
    Except CompileError (Nat × Measure) :=
  let outOfRange := CompileError.orderIndexOutOfRange index measures.length
  if 0 ≤ index then
    match measures[index.toNat]? with
    | some measure => .ok (index.toNat, measure)
    | none => .error outOfRange
  else .error outOfRange

/-- The identifier of a metric that only sorts the grouping at `depth`. -/
def auxiliaryId (depth position : Nat) : Nat :=
  if depth = 0 then 2 else depth + position + 2

/--
The sort clause of the grouping at `depth`, with the aggregations below it,
which may gain an auxiliary metric.  `firstMetric` is the identifier of the
first metric if the metrics stand directly below.
-/
def sortClause (measures : List Measure) (depth : Nat) (firstMetric : Option Nat)
    (entry : AxisEntry) (below : Aggregations) :
    Except CompileError (Keyed String SortDirection × Aggregations) :=
  match entry.order? with
  | none => .ok ([(countKey, .desc)], below)
  | some (.error error) => .error (.invalidOrder error)
  | some (.ok ⟨.docCount, direction⟩) => .ok ([(countKey, direction)], below)
  | some (.ok ⟨.valueAxis index, direction⟩) => do
      let (position, measure) ← measureAt measures index
      match measure.kind with
      | none => return ([(countKey, direction)], below)
      | some kind =>
          let (id, below) ← placeAuxiliary below (auxiliaryId depth position)
            (firstMetric.map (fun first => first + position))
            (.metric kind measure.entry.field)
          return ([(id, direction)], below)

/-! ## Groupings -/

/-- The number of groups that an entry asks for. -/
def AxisEntry.termsSize (entry : AxisEntry) (settings : CompilerSettings) :
    UInt64 :=
  match entry.count? "terms_size" with
  | some size => size
  | none => (entry.count? "size").getD settings.termsSize

/-- The operator of a grouping; only top values have a sort clause. -/
def Grouping.operator (grouping : Grouping) (settings : CompilerSettings)
    (order : Keyed String SortDirection) : Operator :=
  let entry := grouping.entry
  let field := entry.field.getD ""
  let minDocCount := (entry.count? "min_doc_count").getD 0
  match grouping.kind with
  | .terms =>
      .terms
        { field
          size := entry.termsSize settings
          minDocCount
          missing := entry.option? "missing"
          order }
  | .dateHistogram =>
      .dateHistogram
        { field
          fixedInterval := (entry.text? "fixed_interval").getD ""
          minDocCount
          timeZone := (entry.text? "timeZone").or settings.timeZone?
          extendedBounds := settings.bounds }
  | .histogram =>
      .histogram
        { field
          interval := (entry.decimal? "interval").getD Binary64.zero
          minDocCount
          missing := entry.option? "missing" }

/-- The sort clause of a grouping that has one, and the aggregations below it. -/
def Grouping.sorted (grouping : Grouping) (measures : List Measure)
    (depth : Nat) (firstMetric : Option Nat) (below : Aggregations) :
    Except CompileError (Keyed String SortDirection × Aggregations) :=
  match grouping.kind with
  | .terms => sortClause measures depth firstMetric grouping.entry below
  | .dateHistogram => .ok ([], below)
  | .histogram => .ok ([], below)

/--
Nest groupings from `depth` on; `firstMetric` is the identifier of the first
metric.
-/
def nest (settings : CompilerSettings) (measures : List Measure)
    (firstMetric : Nat) (depth : Nat) :
    List Grouping → Except CompileError (Aggregations × Slots)
  | [] =>
      .ok (metrics firstMetric measures,
        Keyed.ofList (valueSlots firstMetric 0 measures))
  | grouping :: rest => do
      let (below, slots) ← nest settings measures firstMetric (depth + 1) rest
      let (order, below) ← grouping.sorted measures depth
        (if rest.isEmpty then some firstMetric else none) below
      return ([(depth.repr, .bucket (grouping.operator settings order) below)],
        [(depth.repr, .main depth slots)])

/-! ## Charts -/

/-- The settings for one call: its bounds and query come before the defaults. -/
def CompilerSettings.override (settings : CompilerSettings)
    (options : CompileOptions) : CompilerSettings :=
  { settings with
    bounds := options.bounds.or settings.bounds
    query := options.query.or settings.query }

/-- Compile a chart. -/
def Catalog.compile (catalog : Catalog) (settings : CompilerSettings)
    (options : CompileOptions) (chart : Chart) :
    Except CompileError CompiledChart := do
  let settings := settings.override options
  let groupings ← resolveAll catalog.grouping (chart.entries .main)
  let measures ← resolveAll catalog.measure (chart.entries .value)
  let (aggregations, slots) ←
    nest settings measures (groupings.length + 1) 0 groupings
  return ⟨⟨aggregations, 0, settings.defaultQuery⟩, slots⟩

end ChartQuery
