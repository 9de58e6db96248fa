import ChartQuery.Proofs.Chart.Options
import ChartQuery.Proofs.Compilation.Groupings
import ChartQuery.Proofs.Sample

/-!
# Sort clauses of a request

A grouping of top values is sorted by one key.  `SortsAsAsked` says which key
the caller asked for: the number of documents, unless the entry's order names a
position of the value axis that holds a metric.  Then the key is the identifier
of that metric among the aggregations directly below the grouping.

Nothing is assumed about the chart but that it compiles.
-/

namespace ChartQuery

/--
The clause `order`, with the aggregations `below` the grouping, is what the
entry asks for.
-/
structure SortsAsAsked (catalog : Catalog) (chart : Chart) (entry : AxisEntry)
    (below : Aggregations) (order : Keyed String SortDirection) : Prop where
  /-- There is exactly one key. -/
  single : ∃ key direction, order = [(key, direction)]
  /-- Without an order, or with `null`, the largest groups come first. -/
  unasked : Keyed.get? "order" entry.options = none ∨
      Keyed.get? "order" entry.options = some .null →
    order = [("_count", .desc)]
  count : ∀ direction, entry.Asks ⟨.docCount, direction⟩ →
    order = [("_count", direction)]
  /-- A position that holds a document count is sorted by the count, too. -/
  countEntry : ∀ position direction other,
    entry.Asks ⟨.valueAxis (position : Nat), direction⟩ →
    (chart.entries .value)[position]? = some other →
    catalog.handler? other = some .docCount →
    order = [("_count", direction)]
  /-- A position that holds a metric is sorted by that metric. -/
  metric : ∀ position direction other kind,
    entry.Asks ⟨.valueAxis (position : Nat), direction⟩ →
    (chart.entries .value)[position]? = some other →
    catalog.handler? other = some (.metric kind) →
    ∃ id, order = [(id, direction)] ∧
      Keyed.get? id below = some (.metric kind other.field)

/-! ## Clauses of one grouping -/

section Clauses

variable {measures : List Measure} {depth : Nat} {entry : AxisEntry}
  {below after : Aggregations} {order : Keyed String SortDirection}

theorem Sorting.single
    (sorting : Sorting measures depth entry below order after) :
    ∃ key direction, order = [(key, direction)] := by
  cases sorting <;> exact ⟨_, _, rfl⟩

theorem Sorting.eq_of_unasked
    (sorting : Sorting measures depth entry below order after)
    (unasked : entry.order? = none) : order = [(countKey, .desc)] := by
  cases sorting with
  | standard => rfl
  | byCount asked => simp [unasked] at asked
  | byCountEntry asked => simp [unasked] at asked
  | byPresent asked => simp [unasked] at asked
  | byAdded asked => simp [unasked] at asked

theorem Sorting.eq_of_count {direction : SortDirection}
    (sorting : Sorting measures depth entry below order after)
    (asks : entry.order? = some (.ok ⟨.docCount, direction⟩)) :
    order = [(countKey, direction)] := by
  cases sorting with
  | standard absent => simp [asks] at absent
  | byCount asked =>
      rw [asks] at asked
      cases asked
      rfl
  | byCountEntry asked => simp [asks] at asked
  | byPresent asked => simp [asks] at asked
  | byAdded asked => simp [asks] at asked

theorem Sorting.eq_of_countEntry {position : Nat} {direction : SortDirection}
    {other : AxisEntry}
    (sorting : Sorting measures depth entry below order after)
    (asks : entry.order? = some (.ok ⟨.valueAxis position, direction⟩))
    (target : measures[position]? = some ⟨other, none⟩) :
    order = [(countKey, direction)] := by
  cases sorting with
  | standard absent => simp [asks] at absent
  | byCount asked => simp [asks] at asked
  | byCountEntry asked =>
      rw [asks] at asked
      cases asked
      rfl
  | byPresent asked found =>
      rw [asks] at asked
      cases asked
      simp [target] at found
  | byAdded asked found =>
      rw [asks] at asked
      cases asked
      simp [target] at found

/-- However the metric came to its place, the key finds it after sorting. -/
theorem Sorting.get?_of_metric {position : Nat} {direction : SortDirection}
    {other : AxisEntry} {kind : MetricKind}
    (sorting : Sorting measures depth entry below order after)
    (asks : entry.order? = some (.ok ⟨.valueAxis position, direction⟩))
    (target : measures[position]? = some ⟨other, some kind⟩) :
    ∃ id, order = [(id, direction)] ∧
      Keyed.get? id after = some (.metric kind other.field) := by
  cases sorting with
  | standard absent => simp [asks] at absent
  | byCount asked => simp [asks] at asked
  | byCountEntry asked found =>
      rw [asks] at asked
      cases asked
      simp [target] at found
  | byPresent asked found present =>
      rw [asks] at asked
      cases asked
      rw [target] at found
      cases found
      exact ⟨_, rfl, present⟩
  | byAdded asked found named free =>
      rw [asks] at asked
      cases asked
      rw [target] at found
      cases found
      exact ⟨_, rfl, by simp [Keyed.get?_append, free, Keyed.get?]⟩

end Clauses

/-! ## Charts -/

/--
In every chart that compiles, a main entry of top values has a grouping at its
depth that is sorted as the entry asks.
-/
theorem sortsAsAsked_of_compile
    {catalog : Catalog} {settings : CompilerSettings}
    {options : CompileOptions} {chart : Chart} {compiled : CompiledChart}
    {depth : Nat} {entry : AxisEntry}
    (compiles : catalog.compile settings options chart = .ok compiled)
    (placed : (chart.entries .main)[depth]? = some entry)
    (terms : catalog.handler? entry = some (.bucket .terms)) :
    ∃ body below,
      compiled.request.aggregations.groupingAt? depth =
          some (.bucket (.terms body) below) ∧
        SortsAsAsked catalog chart entry below body.order := by
  rcases Catalog.exists_grouping_of_compile compiles placed with
    ⟨⟨owner, kind⟩, measures, own, below, order, after, made, values, sorted,
      found⟩
  rcases Catalog.grouping_eq_ok_iff.mp made with ⟨rfl, handled⟩
  have same : kind = .terms := by
    rw [terms] at handled
    cases handled
    rfl
  subst same
  have sorting : Sorting measures depth owner below order after :=
    sorting_of_sortClause sorted
  have measured : ∀ {position : Nat} (measure : Measure),
      (chart.entries .value)[position]? = some measure.entry →
      catalog.handler? measure.entry = some measure.handler →
      measures[position]? = some measure := fun measure there known =>
    getElem?_of_resolveAll values there
      (Catalog.measure_eq_ok_iff.mpr ⟨rfl, known⟩)
  refine ⟨_, after, found, ?_⟩
  constructor
  · exact sorting.single
  · intro unasked
    exact sorting.eq_of_unasked (AxisEntry.order?_eq_none_iff.mpr unasked)
  · intro direction asks
    exact sorting.eq_of_count (AxisEntry.order?_eq_ok_iff.mpr asks)
  · intro position direction other asks there counted
    exact sorting.eq_of_countEntry (AxisEntry.order?_eq_ok_iff.mpr asks)
      (measured ⟨other, none⟩ there counted)
  · intro position direction other metric asks there handledOther
    exact sorting.get?_of_metric (AxisEntry.order?_eq_ok_iff.mpr asks)
      (measured ⟨other, some metric⟩ there handledOther)

/-- Three groupings: the outermost is sorted by the last of three values. -/
theorem sortsAsAsked_of_compile_ordered :
    ∃ compiled body below,
      Sample.catalog.compile .standard .none Sample.ordered = .ok compiled ∧
        compiled.request.aggregations.groupingAt? 0 =
          some (.bucket (.terms body) below) ∧
        SortsAsAsked Sample.catalog Sample.ordered
          (Sample.topStates (Sample.orderBy "2" "asc")) below body.order := by
  have succeeds :
      (Sample.catalog.compile .standard .none Sample.ordered).toBool = true := by
    decide +kernel
  have terms : Sample.catalog.handler?
      (Sample.topStates (Sample.orderBy "2" "asc")) =
        some (.bucket .terms) := by
    decide +kernel
  rcases Outcome.exists_ok_of_toBool succeeds with ⟨compiled, compiles⟩
  have placed : (Sample.ordered.entries .main)[0]? =
      some (Sample.topStates (Sample.orderBy "2" "asc")) := rfl
  rcases sortsAsAsked_of_compile compiles placed terms with
    ⟨body, below, found, sorts⟩
  exact ⟨compiled, body, below, compiles, found, sorts⟩

end ChartQuery
