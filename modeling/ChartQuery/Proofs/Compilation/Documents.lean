import ChartQuery.Proofs.Aggregation.Document
import ChartQuery.Proofs.Compilation.InnermostSlots
import ChartQuery.Proofs.Compilation.Nesting
import ChartQuery.Proofs.Chart.Options
import ChartQuery.Proofs.Sample
import ChartQuery.Proofs.Slot.Document

/-!
# Documents of compiled charts

A compiled chart may be stored as a document and its response be read later.
Compilation only makes what a document can tell: identifiers are not repeated
on any level, an option `missing` that is `null` is not carried, and positions
are those of the axes.  So the document is read as the very chart that was
written, and a stored slot map reads every response as the original does.
-/

namespace ChartQuery

/-- Every position on an axis is a 64-bit word. -/
def Chart.Addressable (chart : Chart) : Prop :=
  ∀ axis, (chart.entries axis).length ≤ UInt64.size

/-! ## Groupings -/

/-- A stand-in for missing values that a grouping carries is not `null`. -/
theorem Grouping.storable_operator (grouping : Grouping)
    (settings : CompilerSettings) {order : Keyed String SortDirection}
    (distinct : Keyed.Distinct order) :
    (grouping.operator settings order).Storable := by
  have proper : grouping.entry.option? "missing" ≠ some .null := by
    intro null
    exact (AxisEntry.option?_eq_some_iff.mp null).2 rfl
  unfold Grouping.operator
  cases grouping.kind with
  | terms => exact ⟨proper, distinct⟩
  | dateHistogram => trivial
  | histogram => exact proper

/-- A metric is added below a grouping only under a free identifier. -/
theorem Grouping.storable_of_sorted
    {grouping : Grouping} {measures : List Measure} {depth : Nat}
    {firstMetric : Option Nat} {below after : Aggregations}
    {order : Keyed String SortDirection}
    (sorted : grouping.sorted measures depth firstMetric below =
      .ok (order, after))
    (stored : Aggregation.StorableSiblings below) :
    Keyed.Distinct order ∧ Aggregation.StorableSiblings after := by
  rcases Grouping.sorted_cases sorted with ⟨_, sorting⟩ | ⟨_, rfl, rfl⟩
  · cases sorting with
    | byAdded order target named free =>
        have fresh := (Keyed.get?_eq_none_iff _ _).mp free
        rcases Aggregation.storableSiblings_iff.mp stored with
          ⟨distinct, each⟩
        refine ⟨List.nodup_singleton _, ?_⟩
        apply Aggregation.storableSiblings_iff.mpr
        constructor
        · rw [← Keyed.insert_of_not_mem fresh]
          exact distinct.insert _ _
        · intro entry member
          rcases List.mem_append.mp member with old | new
          · exact each entry old
          · rw [List.mem_singleton.mp new]
            trivial
    | _ => exact ⟨List.nodup_singleton _, stored⟩
  · exact ⟨List.nodup_nil, stored⟩

/-! ## Levels -/

theorem storable_metrics (first : Nat) (measures : List Measure) :
    Aggregation.StorableSiblings (metrics first measures) := by
  apply Aggregation.storableSiblings_iff.mpr
  refine ⟨distinct_metrics first measures, ?_⟩
  rintro ⟨id, node⟩ member
  rcases mem_metrics.mp member with ⟨_, _, _, _, _, rfl⟩
  trivial

theorem storable_innermostSlots (first : Nat) {measures : List Measure}
    (positions : measures.length ≤ UInt64.size) :
    Slot.StorableSiblings (innermostSlots first measures) := by
  apply Slot.storableSiblings_iff.mpr
  refine ⟨distinct_innermostSlots first measures, ?_⟩
  rintro ⟨id, slot⟩ member
  rcases mem_innermostSlots member with ⟨position, _, there, _, rfl⟩
  have inside := (List.getElem?_eq_some_iff.mp there).1
  exact ⟨Nat.lt_of_lt_of_le inside positions, trivial⟩

/-- Everything that groupings are nested into can be told by a document. -/
theorem storable_nest
    {settings : CompilerSettings} {measures : List Measure}
    {firstMetric depth : Nat} {groupings : List Grouping}
    {aggregations : Aggregations} {slots : Slots}
    (nested : nest settings measures firstMetric depth groupings =
      .ok (aggregations, slots))
    (depths : depth + groupings.length ≤ UInt64.size)
    (positions : measures.length ≤ UInt64.size) :
    Aggregation.StorableSiblings aggregations ∧
      Slot.StorableSiblings slots := by
  induction groupings generalizing depth aggregations slots with
  | nil =>
      cases nested
      exact ⟨storable_metrics _ _, storable_innermostSlots _ positions⟩
  | cons grouping rest ih =>
      rcases nest_cons_eq_ok_iff.mp nested with
        ⟨below, inner, order, after, deeper, sorted, rfl, rfl⟩
      rw [List.length_cons] at depths
      rcases ih deeper (by omega) with ⟨stored, slotted⟩
      rcases Grouping.storable_of_sorted sorted stored with
        ⟨distinct, kept⟩
      have fits : depth < UInt64.size := by omega
      constructor
      · exact ⟨List.not_mem_nil,
          ⟨grouping.storable_operator settings distinct, kept⟩, trivial⟩
      · exact ⟨List.not_mem_nil, ⟨fits, slotted⟩, trivial⟩

/-! ## Compiled charts -/

theorem CompiledChart.ofJson?_toJson {compiled : CompiledChart}
    (stored : Aggregation.StorableSiblings compiled.request.aggregations)
    (slotted : Slot.StorableSiblings compiled.slots) :
    CompiledChart.ofJson? compiled.toJson = some compiled := by
  have written : Json.record? declared compiled.toJson =
      some
        [("es_query", compiled.request.toJson),
          ("mapping", compiled.slots.toJson)] :=
    Json.record?_object (by decide) (List.Sublist.refl declared)
  simp [ofJson?, written, Json.required?, Keyed.get?,
    Request.ofJson?_toJson stored, Slots.ofJson?_toJson slotted]

/--
The document of a compiled chart has a request and a slot map, and it is read as
the chart that was written; two compiled charts are equal only if they have the
same siblings in the same order on all levels.  With the slot map of the
document every response is read as with the original one.
-/
theorem readBack_of_compile
    {catalog : Catalog} {settings : CompilerSettings}
    {options : CompileOptions} {chart : Chart} {compiled : CompiledChart}
    (addressable : chart.Addressable)
    (compiles : catalog.compile settings options chart = .ok compiled) :
    CompiledChart.ofJson? compiled.toJson = some compiled ∧
      ∃ aggregations mapping,
        compiled.toJson =
            .object
              [("es_query", .object
                  [("aggs", aggregations),
                    ("size", .ofUInt64 0),
                    ("query", (settings.override options).defaultQuery)]),
                ("mapping", mapping)] ∧
          Aggregation.tableOf? aggregations =
            some compiled.request.aggregations ∧
          ∃ slots, Slots.ofJson? mapping = some slots ∧
            ∀ overrides response,
              decode overrides slots response =
                decode overrides compiled.slots response := by
  rcases Catalog.compile_eq_ok_iff.mp compiles with
    ⟨groupings, measures, aggregations, slots, mains, values, nested, rfl⟩
  have depths : 0 + groupings.length ≤ UInt64.size := by
    rw [Nat.zero_add, ← (resolveAll_eq_ok_iff.mp mains).length_eq]
    exact addressable .main
  have positions : measures.length ≤ UInt64.size := by
    rw [← (resolveAll_eq_ok_iff.mp values).length_eq]
    exact addressable .value
  rcases storable_nest nested depths positions with ⟨stored, slotted⟩
  refine ⟨CompiledChart.ofJson?_toJson stored slotted, _, _, rfl, ?_,
    slots, Slots.ofJson?_toJson slotted, fun _ _ => rfl⟩
  exact Aggregation.tableOf?_membersToJson aggregations stored

/-- Three groupings with two sort clauses are read as they were written. -/
theorem readBack_of_compile_ordered :
    Sample.ordered.Addressable ∧
      ∃ compiled,
        Sample.catalog.compile .standard .none Sample.ordered =
            .ok compiled ∧
          CompiledChart.ofJson? compiled.toJson = some compiled := by
  have addressable : Sample.ordered.Addressable := by
    intro axis
    cases axis <;> decide
  have succeeds :
      (Sample.catalog.compile .standard .none Sample.ordered).toBool =
        true := by
    decide +kernel
  rcases Outcome.exists_ok_of_toBool succeeds with ⟨compiled, compiles⟩
  exact ⟨addressable, compiled, compiles,
    (readBack_of_compile addressable compiles).1⟩

end ChartQuery
