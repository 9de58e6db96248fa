import ChartQuery.Proofs.Decoding.Rows
import ChartQuery.Validation.Basic

/-!
# Alignment of columns

The columns of a row are meant to stand for the positions of both axes, all of
them and in order.  They do when at most one value entry counts documents.  All
counts share one slot, which has the place of the first and the position of the
last of them, so with more counts a column is missing from every row.
-/

namespace ChartQuery

/-- The columns for all positions of both axes in order. -/
def Chart.columns (chart : Chart) : List String :=
  (List.range (chart.entries .main).length).map Axis.main.label ++
    (List.range (chart.entries .value).length).map Axis.value.label

/-- The number of value entries that count documents. -/
def Catalog.countEntries (catalog : Catalog) (chart : Chart) : Nat :=
  (chart.entries .value).countP
    (fun entry => catalog.handler? entry = some .docCount)

theorem countMeasures_of_resolveAll {catalog : Catalog}
    {entries : List AxisEntry} {measures : List Measure}
    (values : resolveAll catalog.measure entries = .ok measures) :
    countMeasures measures =
      entries.countP (fun entry => catalog.handler? entry = some .docCount) := by
  induction resolveAll_eq_ok_iff.mp values with
  | nil => rfl
  | @cons entry measure rest more here later ih =>
      have handled := (Catalog.measure_eq_ok_iff.mp here).2
      have same : decide (catalog.handler? entry = some .docCount) =
          measure.kind.isNone := by
        rw [handled, Measure.handler]
        cases measure.kind with
        | none => rfl
        | some kind => rfl
      rw [countMeasures, List.countP_cons, List.countP_cons, same,
        ← ih (resolveAll_eq_ok_iff.mpr later), countMeasures]

/-- The slots stand for all positions in order just when one count is the most. -/
theorem positions_places_eq_range_iff {first : Nat} {measures : List Measure} :
    (innermostSlots first measures).places.map Prod.snd =
        List.range measures.length ↔
      countMeasures measures ≤ 1 := by
  have positions : (innermostSlots first measures).places.map Prod.snd =
      (innermostSlots first measures).map (fun entry => entry.2.position) := by
    rw [Slots.places, List.map_map]
    rfl
  rw [positions]
  constructor
  · intro same
    have length := congrArg List.length same
    rw [List.length_map, List.length_range] at length
    exact length_innermostSlots_eq_iff.mp length
  · exact positions_innermostSlots

/-- Rows of nested groupings have a column for each grouping and each slot. -/
theorem RowAlong.keys_of_root {values : List (String × Nat)} {scope : Scope}
    {chain : List Json} {row : Row}
    (along : RowAlong values 0 scope [] chain row) :
    Keyed.keys row =
      (List.range chain.length).map Axis.main.label ++
        (values.map Prod.snd).map Axis.value.label := by
  rw [along.keys_eq, List.range_eq_range', List.map_map]
  rfl

/--
A conforming response is decoded into rows whose columns are those of the chart,
none lost or moved, exactly when at most one value entry counts documents.
-/
theorem keys_decode_eq_columns_iff
    {catalog : Catalog} {settings : CompilerSettings}
    {options : CompileOptions} {chart : Chart} {compiled : CompiledChart}
    {response : Json}
    (compiles : catalog.compile settings options chart = .ok compiled)
    (conforms : Conforms compiled.request response) :
    ∃ rows, decode .none compiled.slots response = .ok rows ∧
      ∀ row ∈ rows,
        (Keyed.keys row = chart.columns ↔ catalog.countEntries chart ≤ 1) := by
  rcases Catalog.compile_eq_ok_iff.mp compiles with
    ⟨groupings, measures, aggregations, slots, mains, values, nested, rfl⟩
  rcases decode_nest nested conforms with ⟨rows, decoded, along⟩
  have count : (chart.entries .main).length = groupings.length :=
    (resolveAll_eq_ok_iff.mp mains).length_eq
  have length : (chart.entries .value).length = measures.length :=
    (resolveAll_eq_ok_iff.mp values).length_eq
  refine ⟨rows, decoded, fun row member => ?_⟩
  rcases Outcome.exists_of_mem_right along member with
    ⟨chain, followed, rowAlong⟩
  rw [rowAlong.keys_of_root, Scope.length_of_mem_chains followed,
    Chart.columns, count, length, List.append_cancel_left_eq,
    (List.map_injective_iff.mpr
      (fun _ _ => Axis.label_inj.mp)).eq_iff,
    positions_places_eq_range_iff, Catalog.countEntries,
    countMeasures_of_resolveAll values]

/-- A count between two metrics: every row has the columns of the chart. -/
theorem keys_decode_ordered :
    ∃ compiled,
      Sample.catalog.compile .standard .none Sample.ordered = .ok compiled ∧
        ∃ rows,
          decode .none compiled.slots Sample.orderedResponse = .ok rows ∧
            ∀ row ∈ rows, Keyed.keys row = Sample.ordered.columns := by
  have oneCount : Sample.catalog.countEntries Sample.ordered ≤ 1 := by
    decide +kernel
  rcases exists_conforms_ordered with ⟨compiled, compiles, conforms⟩
  rcases keys_decode_eq_columns_iff compiles conforms with
    ⟨rows, decoded, aligned⟩
  refine ⟨compiled, compiles, rows, decoded, fun row member => ?_⟩
  exact (aligned row member).mpr oneCount

/--
A chart with a metric between two counts is accepted, but its rows have no
column for the first count, and the other one comes before the metric.
-/
theorem keys_decode_twoCounts :
    CatalogFile.builtin.resolve = .ok Sample.catalog ∧
      Sample.catalog.validate Sample.twoCounts = .ok () ∧
      ∃ compiled rows,
        Sample.catalog.compile .standard .none Sample.twoCounts =
            .ok compiled ∧
          Conforms compiled.request Sample.countsResponse ∧
          decode .none compiled.slots Sample.countsResponse = .ok rows ∧
          rows.map Keyed.keys =
            [["main_axis.0", "value_axis.2", "value_axis.1"]] ∧
          Sample.twoCounts.columns =
            ["main_axis.0", "value_axis.0", "value_axis.1", "value_axis.2"] := by
  have accepted : (Sample.catalog.validate Sample.twoCounts).toBool = true := by
    decide +kernel
  have fits :
      (Sample.catalog.compile .standard .none Sample.twoCounts).toOption.any
        (fun compiled =>
          decide (Conforms compiled.request Sample.countsResponse) &&
            (decode .none compiled.slots Sample.countsResponse).toOption.any
              (fun rows => decide (rows.map Keyed.keys =
                [["main_axis.0", "value_axis.2", "value_axis.1"]]))) = true := by
    decide +kernel
  rcases Outcome.exists_ok_of_toBool accepted with ⟨_, valid⟩
  rcases Outcome.exists_ok_of_any fits with ⟨compiled, compiles, both⟩
  rcases (Bool.and_eq_true _ _).mp both with ⟨conforms, row⟩
  rcases Outcome.exists_ok_of_any row with ⟨rows, decoded, keys⟩
  exact ⟨Sample.resolve_builtin, valid, compiled, rows, compiles,
    of_decide_eq_true conforms, decoded, of_decide_eq_true keys,
    by decide +kernel⟩

end ChartQuery
