import ChartQuery.Proofs.Compilation.Levels
import ChartQuery.Proofs.Sample

/-!
# Layout of a compiled chart

Where each entry of a chart stands in what it compiles to.  A main entry is a
grouping under the number of its depth, and the next level is inside it; the
metrics of the value axis are on the innermost level, in order, each under a
number of its own.

A grouping that is sorted by a metric may add that metric to the level inside
it.  `Auxiliary` says that such an addition comes behind all that the chart asks
for, under an identifier that was free; so nothing that was there before is
removed, replaced or moved.
-/

namespace ChartQuery

/-- The field that an operator is applied to. -/
def Operator.field? : Operator → Option String
  | .terms body => some body.field
  | .dateHistogram body => some body.field
  | .histogram body => some body.field
  | .metric _ field => field

/--
The metrics that the value entries ask for, in order.  With `M` main entries the
identifier for position `j` is `M + 1 + j`; a document count asks for none.
-/
def Catalog.metricsOf (catalog : Catalog) (chart : Chart) : Aggregations :=
  (chart.entries .value).zipIdx.filterMap fun (entry, position) =>
    match catalog.handler? entry with
    | some (.metric kind) =>
        some (((chart.entries .main).length + 1 + position).repr,
          .metric kind entry.field)
    | _ => none

/-- Where the entries of a chart stand in a compiled chart. -/
structure LaidOut (catalog : Catalog) (chart : Chart)
    (compiled : CompiledChart) : Prop where
  /-- Inside the groupings before it stands the grouping of a main entry. -/
  grouping : ∀ depth entry, (chart.entries .main)[depth]? = some entry →
    ∃ kind operator below extra,
      catalog.handler? entry = some (.bucket kind) ∧
        operator.name = kind.name ∧
        operator.field? = some (entry.field.getD "") ∧
        compiled.request.aggregations.levelAt? depth =
          some ((depth.repr, .bucket operator below) :: extra) ∧
        compiled.request.aggregations.levelAt? (depth + 1) = some below ∧
        Auxiliary [(depth.repr, .bucket operator below)] extra ∧
        (depth = 0 → extra = [])
  /-- Inside all groupings stand the metrics of the value axis. -/
  innermost : ∃ extra,
    compiled.request.aggregations.levelAt? (chart.entries .main).length =
        some (catalog.metricsOf chart ++ extra) ∧
      Auxiliary (catalog.metricsOf chart) extra ∧
      (chart.entries .main = [] → extra = [])
  /-- A metric has the same identifier in the request and in the slot map. -/
  metric : ∀ position entry kind,
    (chart.entries .value)[position]? = some entry →
    catalog.handler? entry = some (.metric kind) →
    ∃ level slots,
      compiled.request.aggregations.levelAt? (chart.entries .main).length =
          some level ∧
        compiled.slots.levelAt? (chart.entries .main).length = some slots ∧
        Keyed.get? ((chart.entries .main).length + 1 + position).repr level =
          some (.metric kind entry.field) ∧
        Keyed.get? ((chart.entries .main).length + 1 + position).repr slots =
          some (.value position)

/-! ## Metrics -/

/-- The metrics of measures are those of the entries that they come from. -/
theorem metrics_of_resolveAll {catalog : Catalog} {entries : List AxisEntry}
    {measures : List Measure}
    (values : resolveAll catalog.measure entries = .ok measures)
    (first start : Nat) :
    metrics (first + start) measures =
      (entries.zipIdx start).filterMap fun (entry, position) =>
        match catalog.handler? entry with
        | some (.metric kind) =>
            some ((first + position).repr, .metric kind entry.field)
        | _ => none := by
  induction resolveAll_eq_ok_iff.mp values generalizing start with
  | nil => rfl
  | @cons entry measure entries measures here later ih =>
      rcases measure with ⟨owner, kind?⟩
      rcases Catalog.measure_eq_ok_iff.mp here with ⟨rfl, handled⟩
      have inside := ih (resolveAll_eq_ok_iff.mpr later) (start + 1)
      rw [← Nat.add_assoc] at inside
      cases kind? with
      | none => simp [metrics, handled, Measure.handler, inside]
      | some kind => simp [metrics, handled, Measure.handler, inside]

/-! ## Charts -/

@[simp]
theorem Grouping.field?_operator (grouping : Grouping)
    (settings : CompilerSettings) (order : Keyed String SortDirection) :
    (grouping.operator settings order).field? =
      some (grouping.entry.field.getD "") := by
  unfold Grouping.operator
  cases grouping.kind <;> rfl

section Charts

variable {catalog : Catalog} {settings : CompilerSettings}
  {options : CompileOptions} {chart : Chart} {compiled : CompiledChart}

/-- The level that a grouping stands on, and the one inside it. -/
theorem exists_levelAt?_grouping
    (compiles : catalog.compile settings options chart = .ok compiled)
    {depth : Nat} {entry : AxisEntry}
    (placed : (chart.entries .main)[depth]? = some entry) :
    ∃ kind operator below extra,
      catalog.handler? entry = some (.bucket kind) ∧
        operator.name = kind.name ∧
        operator.field? = some (entry.field.getD "") ∧
        compiled.request.aggregations.levelAt? depth =
          some ((depth.repr, .bucket operator below) :: extra) ∧
        compiled.request.aggregations.levelAt? (depth + 1) = some below ∧
        Auxiliary [(depth.repr, .bucket operator below)] extra ∧
        (depth = 0 → extra = []) := by
  rcases Catalog.compile_eq_ok_iff.mp compiles with
    ⟨groupings, measures, aggregations, slots, mains, values, nested, rfl⟩
  rcases Outcome.exists_getElem?_of_left (resolveAll_eq_ok_iff.mp mains)
      placed with
    ⟨⟨owner, kind⟩, there, made⟩
  rcases Catalog.grouping_eq_ok_iff.mp made with ⟨rfl, handled⟩
  have inside : depth < groupings.length :=
    (List.getElem?_eq_some_iff.mp there).1
  rcases exists_levelFrom?_nest nested inside.le with
    ⟨asked, extra, reached, fits, auxiliary, outermost⟩
  cases fits with
  | metrics => exact (Nat.lt_irrefl _ inside).elim
  | @grouping _ grouping order below next =>
      rw [there] at next
      cases next
      rw [Nat.zero_add] at reached auxiliary
      refine ⟨kind, _, below, extra, handled, Grouping.name_operator _ _ _,
        Grouping.field?_operator _ _ _, reached, ?_, auxiliary, outermost⟩
      rw [Aggregations.levelAt?, Aggregations.levelFrom?_succ, reached]
      simp [Keyed.get?, Aggregation.bucket, Aggregation.children]

/-- The innermost level holds the metrics of the chart. -/
theorem exists_levelAt?_innermost
    (compiles : catalog.compile settings options chart = .ok compiled) :
    ∃ extra,
      compiled.request.aggregations.levelAt? (chart.entries .main).length =
          some (catalog.metricsOf chart ++ extra) ∧
        Auxiliary (catalog.metricsOf chart) extra ∧
        (chart.entries .main = [] → extra = []) := by
  rcases Catalog.exists_innermost_of_compile compiles with
    ⟨measures, extra, values, reached, _, auxiliary, outermost⟩
  have asks : metrics ((chart.entries .main).length + 1) measures =
      catalog.metricsOf chart := metrics_of_resolveAll values _ 0
  rw [asks] at reached auxiliary
  exact ⟨extra, reached, auxiliary, outermost⟩

/-- A metric is found under its number, and its slot beside it. -/
theorem exists_levelAt?_metric
    (compiles : catalog.compile settings options chart = .ok compiled)
    {position : Nat} {entry : AxisEntry} {kind : MetricKind}
    (placed : (chart.entries .value)[position]? = some entry)
    (handled : catalog.handler? entry = some (.metric kind)) :
    ∃ level slots,
      compiled.request.aggregations.levelAt? (chart.entries .main).length =
          some level ∧
        compiled.slots.levelAt? (chart.entries .main).length = some slots ∧
        Keyed.get? ((chart.entries .main).length + 1 + position).repr level =
          some (.metric kind entry.field) ∧
        Keyed.get? ((chart.entries .main).length + 1 + position).repr slots =
          some (.value position) := by
  rcases Catalog.exists_innermost_of_compile compiles with
    ⟨measures, extra, values, reached, slotted, _, _⟩
  have made : catalog.measure entry = .ok ⟨entry, some kind⟩ :=
    Catalog.measure_eq_ok_iff.mpr ⟨rfl, handled⟩
  have there := getElem?_of_resolveAll values placed made
  exact ⟨_, _, reached, slotted, get?_metrics_append _ there extra,
    get?_innermostSlots _ there⟩

/--
In a chart that compiles every grouping and every metric stands where its slot
says, with the operator and the field of its entry, and no other aggregation is
there but for one auxiliary metric at most on each level below the root.
-/
theorem laidOut_of_compile
    (compiles : catalog.compile settings options chart = .ok compiled) :
    LaidOut catalog chart compiled where
  grouping _ _ placed := exists_levelAt?_grouping compiles placed
  innermost := exists_levelAt?_innermost compiles
  metric _ _ _ placed handled := exists_levelAt?_metric compiles placed handled

/-- Three groupings, two of them sorted by a metric, over metrics and a count. -/
theorem laidOut_of_compile_ordered :
    ∃ compiled,
      Sample.catalog.compile .standard .none Sample.ordered = .ok compiled ∧
        LaidOut Sample.catalog Sample.ordered compiled := by
  have succeeds :
      (Sample.catalog.compile .standard .none Sample.ordered).toBool = true := by
    decide +kernel
  rcases Outcome.exists_ok_of_toBool succeeds with ⟨compiled, compiles⟩
  exact ⟨compiled, compiles, laidOut_of_compile compiles⟩

end Charts

end ChartQuery
