import ChartQuery.Proofs.Compilation.Nesting

/-!
# Groupings of a request

The groupings of a compiled chart are nested in one another under the
identifiers `0`, `1` and so on.  `Aggregations.groupingAt?` follows these
identifiers inwards.  The main statement describes the node that is reached at
the depth of a main entry: the operator comes from that entry, and the
aggregations below it are those of the inner levels after sorting.
-/

namespace ChartQuery

namespace Aggregations

/-- Follow the numbers from `first` on, `steps` levels down. -/
def groupingFrom? (first : Nat) : Nat → Aggregations → Option Aggregation
  | 0, level => Keyed.get? first.repr level
  | steps + 1, level => do
      let node ← Keyed.get? first.repr level
      let below ← node.children
      groupingFrom? (first + 1) steps below

/-- The node for the main entry at `depth`. -/
def groupingAt? (aggregations : Aggregations) (depth : Nat) :
    Option Aggregation :=
  groupingFrom? 0 depth aggregations

end Aggregations

/-! ## Levels -/

/-- Sorting leaves what is below a grouping where it is. -/
theorem Grouping.get?_of_sorted
    {grouping : Grouping} {measures : List Measure} {depth : Nat}
    {firstMetric : Option Nat} {below after : Aggregations}
    {order : Keyed String SortDirection}
    (sorted : grouping.sorted measures depth firstMetric below =
      .ok (order, after))
    {id : String} {node : Aggregation}
    (found : Keyed.get? id below = some node) :
    Keyed.get? id after = some node := by
  rcases Grouping.auxiliary_of_sorted sorted with ⟨extra, rfl, _⟩
  rw [Keyed.get?_append, found, Option.some_or]

/-- A walk that starts at a level goes the same way after sorting. -/
theorem groupingFrom?_of_sorted
    {grouping : Grouping} {measures : List Measure} {depth : Nat}
    {firstMetric : Option Nat} {below after : Aggregations}
    {order : Keyed String SortDirection}
    (sorted : grouping.sorted measures depth firstMetric below =
      .ok (order, after))
    {first steps : Nat} {node : Aggregation}
    (found : Aggregations.groupingFrom? first steps below = some node) :
    Aggregations.groupingFrom? first steps after = some node := by
  cases steps with
  | zero => exact Grouping.get?_of_sorted sorted found
  | succ steps =>
      rcases Option.bind_eq_some_iff.mp found with ⟨outer, there, inside⟩
      exact Option.bind_eq_some_iff.mpr
        ⟨outer, Grouping.get?_of_sorted sorted there, inside⟩

/-- The node of a grouping, some steps inside the level where nesting starts. -/
theorem groupingFrom?_nest
    {settings : CompilerSettings} {measures : List Measure}
    {firstMetric first steps : Nat} {groupings : List Grouping}
    {grouping : Grouping} {aggregations : Aggregations} {slots : Slots}
    (nested : nest settings measures firstMetric first groupings =
      .ok (aggregations, slots))
    (placed : groupings[steps]? = some grouping) :
    ∃ own below order after,
      grouping.sorted measures (first + steps) own below =
          .ok (order, after) ∧
        Aggregations.groupingFrom? first steps aggregations =
          some (.bucket (grouping.operator settings order) after) := by
  induction groupings generalizing first steps aggregations slots with
  | nil => simp at placed
  | cons outer rest ih =>
      rcases nest_cons_eq_ok_iff.mp nested with
        ⟨below, inner, order, after, deeper, sorted, rfl, rfl⟩
      cases steps with
      | zero =>
          have same : outer = grouping := by simpa using placed
          subst same
          exact ⟨_, below, order, after, sorted,
            by simp [Aggregations.groupingFrom?, Keyed.get?]⟩
      | succ steps =>
          have later : rest[steps]? = some grouping := by simpa using placed
          rcases ih deeper later with
            ⟨own, lower, clause, final, sortedLower, found⟩
          refine ⟨own, lower, clause, final, ?_, ?_⟩
          · have inwards : first + (steps + 1) = first + 1 + steps := by omega
            rw [inwards]
            exact sortedLower
          · simpa [Aggregations.groupingFrom?, Keyed.get?, Aggregation.bucket,
              Aggregation.children] using groupingFrom?_of_sorted sorted found

/-! ## Charts -/

/--
At the depth of a main entry stands the grouping that the entry asks for, with
the sort clause and the aggregations that sorting gives it.
-/
theorem Catalog.exists_grouping_of_compile
    {catalog : Catalog} {settings : CompilerSettings}
    {options : CompileOptions} {chart : Chart} {compiled : CompiledChart}
    {depth : Nat} {entry : AxisEntry}
    (compiles : catalog.compile settings options chart = .ok compiled)
    (placed : (chart.entries .main)[depth]? = some entry) :
    ∃ grouping measures own below order after,
      catalog.grouping entry = .ok grouping ∧
        resolveAll catalog.measure (chart.entries .value) = .ok measures ∧
        grouping.sorted measures depth own below = .ok (order, after) ∧
        compiled.request.aggregations.groupingAt? depth =
          some (.bucket
            (grouping.operator (settings.override options) order) after) := by
  rcases Catalog.compile_eq_ok_iff.mp compiles with
    ⟨groupings, measures, aggregations, slots, mains, values, nested, rfl⟩
  rcases Outcome.exists_getElem?_of_left (resolveAll_eq_ok_iff.mp mains)
      placed with
    ⟨grouping, there, made⟩
  rcases groupingFrom?_nest nested there with
    ⟨own, below, order, after, sorted, found⟩
  rw [Nat.zero_add] at sorted
  exact ⟨grouping, measures, own, below, order, after, made, values, sorted,
    found⟩

end ChartQuery
