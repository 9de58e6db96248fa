import ChartQuery.Proofs.Compilation.Parity
import ChartQuery.Proofs.Compilation.Spelling

/-!
# Charts without their orders

An `order` option decides the sort clause of its grouping, and it may add a
metric to the level inside.  It decides nothing else: a chart that compiles still
does when all `order` options are taken out, to the same slot map and the same
query, and to the request that is left when every aggregation without a slot is
dropped and every grouping is sorted by its number of documents.

`Aggregation.unsorted` is this reduced request, told by the slot map.  The proof
goes along the groupings, from the inside out, and compares two runs: what the
outer run has more on a level has no slot there, so reducing drops just that.
-/

namespace ChartQuery

/-! ## Reduced charts -/

/-- The entry without its `order` option. -/
def AxisEntry.unordered (entry : AxisEntry) : AxisEntry where
  function := entry.function
  field := entry.field
  options := entry.options.filter (fun option => option.1 ≠ "order")
  distinct :=
    List.Nodup.sublist (List.filter_sublist.map Prod.fst) entry.distinct

/-- The chart without any `order` option. -/
def Chart.unordered (chart : Chart) : Chart :=
  { chart with
    main := chart.main.map (List.map AxisEntry.unordered)
    value := chart.value.map (List.map AxisEntry.unordered) }

theorem AxisEntry.order?_unordered (entry : AxisEntry) :
    entry.unordered.order? = none := by
  rw [AxisEntry.order?_eq_none_iff, Keyed.get?_eq_none_iff]
  left
  simp [AxisEntry.unordered, Keyed.keys]

theorem AxisEntry.agreeOn_unordered (entry : AxisEntry) :
    entry.AgreeOn operatorOptions entry.unordered where
  function := rfl
  field := rfl
  options key member := by
    have other : key ≠ "order" := by
      rintro rfl
      exact absurd member (by decide)
    have kept : Keyed.get? key entry.unordered.options =
        Keyed.get? key entry.options :=
      Keyed.get?_filter (fun name => name ≠ "order") (decide_eq_true other) _
    rw [AxisEntry.option?, AxisEntry.option?, kept]

@[simp]
theorem Chart.entries_unordered (chart : Chart) (axis : Axis) :
    chart.unordered.entries axis =
      (chart.entries axis).map AxisEntry.unordered := by
  cases axis with
  | main => exact Option.getD_map (List.map AxisEntry.unordered) [] chart.main
  | value =>
      exact Option.getD_map (List.map AxisEntry.unordered) [] chart.value

/-! ## Reduced requests -/

/-- The operator with the largest groups first; only top values are sorted. -/
def Operator.byCount : Operator → Operator
  | .terms body => .terms { body with order := [(countKey, .desc)] }
  | operator => operator

namespace Aggregation

mutual
/-- The node by count, and below it only what the slots stand for. -/
def unsorted (slots : Slots) : Aggregation → Aggregation
  | .node applied none => .node applied.byCount none
  | .node applied (some below) =>
      .node applied.byCount (some (unsortedSiblings slots below))

/-- The siblings that have a slot, each by count and with slots for its own. -/
def unsortedSiblings (slots : Slots) :
    List (String × Aggregation) → List (String × Aggregation)
  | [] => []
  | (id, child) :: rest =>
      match Keyed.get? id slots with
      | some slot =>
          (id, unsorted slot.children child) :: unsortedSiblings slots rest
      | none => unsortedSiblings slots rest
end

theorem unsortedSiblings_append (slots : Slots) (left right : Aggregations) :
    unsortedSiblings slots (left ++ right) =
      unsortedSiblings slots left ++ unsortedSiblings slots right := by
  induction left with
  | nil => rfl
  | cons entry rest ih =>
      rcases entry with ⟨id, child⟩
      simp only [List.cons_append, unsortedSiblings, ih]
      split <;> rfl

theorem unsortedSiblings_eq_nil {slots : Slots} {extra : Aggregations}
    (unslotted : ∀ id ∈ Keyed.keys extra, id ∉ Keyed.keys slots) :
    unsortedSiblings slots extra = [] := by
  induction extra with
  | nil => rfl
  | cons entry rest ih =>
      rcases entry with ⟨id, child⟩
      have parts := List.forall_mem_cons.mp unslotted
      rw [unsortedSiblings, (Keyed.get?_eq_none_iff id slots).mpr parts.1]
      exact ih parts.2

theorem unsortedSiblings_of_metrics {slots : Slots} {level : Aggregations}
    (slotted : ∀ id child, (id, child) ∈ level →
      id ∈ Keyed.keys slots ∧ ∃ kind field, child = .metric kind field) :
    unsortedSiblings slots level = level := by
  induction level with
  | nil => rfl
  | cons entry rest ih =>
      rcases entry with ⟨id, child⟩
      rcases slotted id child List.mem_cons_self with ⟨held, kind, field, rfl⟩
      have later := ih fun other node member =>
        slotted other node (List.mem_cons_of_mem _ member)
      rw [unsortedSiblings, later]
      cases found : Keyed.get? id slots with
      | none => exact ((Keyed.get?_eq_none_iff id slots).mp found held).elim
      | some slot => rfl

end Aggregation

open Aggregation (unsortedSiblings)

/-! ## One grouping -/

/-- The sort clause of an operator is the only thing that `byCount` changes. -/
theorem Grouping.byCount_operator (grouping : Grouping)
    (settings : CompilerSettings) (order : Keyed String SortDirection) :
    (grouping.operator settings order).byCount =
      grouping.operator settings [(countKey, .desc)] := by
  unfold Grouping.operator
  cases grouping.kind <;> rfl

/-- Without an order nothing is added below, and groups come by count. -/
theorem Grouping.exists_sorted_of_unasked {grouping : Grouping}
    (unasked : grouping.entry.order? = none) (settings : CompilerSettings)
    (measures : List Measure) (depth : Nat) (firstMetric : Option Nat)
    (below : Aggregations) :
    ∃ order,
      grouping.sorted measures depth firstMetric below = .ok (order, below) ∧
        grouping.operator settings order =
          grouping.operator settings [(countKey, .desc)] := by
  unfold Grouping.sorted sortClause Grouping.operator
  rw [unasked]
  cases grouping.kind with
  | terms => exact ⟨_, rfl, rfl⟩
  | dateHistogram => exact ⟨_, rfl, rfl⟩
  | histogram => exact ⟨_, rfl, rfl⟩

section Nesting

variable {settings : CompilerSettings} {measures others : List Measure}
  {firstMetric depth : Nat} {below : Aggregations} {slots : Slots}

/-- The identifiers of a level's slots are those of its aggregations, and `count`. -/
theorem mem_keys_of_slot
    (parity : LevelParity depth none below slots) {id : String}
    (slotted : id ∈ Keyed.keys slots) :
    id = countId ∨ id ∈ Keyed.keys below := by
  rcases List.mem_map.mp slotted with ⟨⟨name, slot⟩, member, rfl⟩
  cases axis : slot.axis with
  | main =>
      rcases parity.main name slot member axis with ⟨_, _, _, _, _, beside⟩
      exact Or.inr (Keyed.mem_keys beside)
  | value =>
      by_cases count : name = countId
      · exact Or.inl count
      · rcases (parity.value name slot member axis).2 count with
          ⟨_, _, beside⟩
        exact Or.inr (Keyed.mem_keys beside)

/-- What sorting adds to a level has no slot there. -/
theorem unsortedSiblings_of_sorted {grouping : Grouping}
    {own : Option Nat} {after : Aggregations}
    {order : Keyed String SortDirection}
    (parity : LevelParity (depth + 1) none below slots)
    (sorted : grouping.sorted measures depth own below = .ok (order, after)) :
    unsortedSiblings slots after = unsortedSiblings slots below := by
  rcases Grouping.auxiliary_of_sorted sorted with
    ⟨extra, rfl, rfl | ⟨number, kind, field, free, rfl⟩⟩
  · rw [List.append_nil]
  · have unslotted : number.repr ∉ Keyed.keys slots := by
      intro slotted
      rcases mem_keys_of_slot parity slotted with count | held
      · exact countId_ne_repr number count.symm
      · exact free held
    have dropped : unsortedSiblings slots
        [(number.repr, .metric kind field)] = [] :=
      Aggregation.unsortedSiblings_eq_nil
        (List.forall_mem_singleton.mpr unslotted)
    rw [Aggregation.unsortedSiblings_append, dropped, List.append_nil]

/-! ## Nested groupings -/

theorem unsortedSiblings_metrics (first : Nat) (measures : List Measure) :
    unsortedSiblings (innermostSlots first measures) (metrics first measures) =
      metrics first measures := by
  apply Aggregation.unsortedSiblings_of_metrics
  intro id child member
  rcases mem_metrics.mp member with ⟨position, entry, kind, there, rfl, rfl⟩
  exact ⟨slotId_mem_keys_innermostSlots there, kind, entry.field, rfl⟩

/-- Groupings without orders nest to the reduced levels, with the same slots. -/
theorem nest_unordered {groupings unordered : List Grouping}
    {aggregations : Aggregations}
    (agree : List.Forall₂ (Grouping.AgreeOn operatorOptions) groupings
      unordered)
    (unasked : ∀ grouping ∈ unordered, grouping.entry.order? = none)
    (alike : List.Forall₂ Measure.Alike measures others)
    (nested : nest settings measures firstMetric depth groupings =
      .ok (aggregations, slots)) :
    nest settings others firstMetric depth unordered =
      .ok (unsortedSiblings slots aggregations, slots) := by
  induction agree generalizing depth aggregations slots with
  | nil =>
      cases nested
      rw [nest, ← metrics_congr alike, ← valueSlots_congr alike]
      exact congrArg (fun level => Except.ok (level, _))
        (unsortedSiblings_metrics firstMetric measures).symm
  | @cons grouping plain rest plains here later ih =>
      rcases nest_cons_eq_ok_iff.mp nested with
        ⟨below, inner, order, after, deeper, sorted, rfl, rfl⟩
      rcases List.forall_mem_cons.mp unasked with ⟨first, more⟩
      have inside := ih more deeper
      rcases Grouping.exists_sorted_of_unasked first settings others depth
          (if plains.isEmpty then some firstMetric else none)
          (unsortedSiblings inner below) with
        ⟨clause, plainly, same⟩
      refine nest_cons_eq_ok_iff.mpr
        ⟨_, inner, clause, _, inside, plainly, ?_, rfl⟩
      -- What the ordered run has added inside is dropped with the inner slots.
      rw [same, ← Grouping.operator_congr here,
        ← Grouping.byCount_operator grouping settings order,
        ← unsortedSiblings_of_sorted (parity_nest deeper).here sorted]
      simp [unsortedSiblings, Keyed.get?, Aggregation.bucket,
        Aggregation.unsorted, Slot.main, Slot.children]

end Nesting

/-! ## Charts -/

section Charts

variable {catalog : Catalog} {settings : CompilerSettings}
  {options : CompileOptions} {chart : Chart} {compiled : CompiledChart}

/-- The compiled chart with its request reduced to what the slots stand for. -/
def CompiledChart.unsorted (compiled : CompiledChart) : CompiledChart :=
  { compiled with
    request :=
      { compiled.request with
        aggregations :=
          unsortedSiblings compiled.slots compiled.request.aggregations } }

theorem Catalog.compile_unordered
    (compiles : catalog.compile settings options chart = .ok compiled) :
    catalog.compile settings options chart.unordered =
      .ok compiled.unsorted := by
  have plain : ∀ axis, List.Forall₂ (AxisEntry.AgreeOn operatorOptions)
      (chart.entries axis) (chart.unordered.entries axis) := by
    intro axis
    rw [Chart.entries_unordered, List.forall₂_map_right_iff, List.forall₂_same]
    exact fun entry _ => entry.agreeOn_unordered
  rcases Catalog.compile_eq_ok_iff.mp compiles with
    ⟨groupings, measures, aggregations, slots, mains, values, nested, rfl⟩
  rcases (resolveAll_related ((plain .main).imp
      fun _ _ => catalog.grouping_related)).exists_ok mains with
    ⟨unordered, plainMains, agree⟩
  rcases (resolveAll_related ((plain .value).imp
      fun _ _ => catalog.measure_related)).exists_ok values with
    ⟨others, plainValues, alike⟩
  have unasked : ∀ grouping ∈ unordered, grouping.entry.order? = none := by
    intro grouping member
    rcases Outcome.exists_of_mem_right (resolveAll_eq_ok_iff.mp plainMains)
        member with
      ⟨entry, there, made⟩
    rw [Chart.entries_unordered] at there
    rcases List.mem_map.mp there with ⟨original, _, rfl⟩
    rw [(Catalog.grouping_eq_ok_iff.mp made).1]
    exact original.order?_unordered
  have reduced := nest_unordered agree unasked alike nested
  rw [agree.length_eq] at reduced
  exact Catalog.compile_eq_ok_iff.mpr
    ⟨unordered, others, _, _, plainMains, plainValues, reduced, rfl⟩

/--
A chart that compiles still does without its orders, to the same slot map, the
same query and the request that is left when every aggregation without a slot
is dropped and every grouping is sorted by count.  So charts that differ in
their orders only decode every response to the same rows.
-/
theorem sorting_confined_of_compile
    (compiles : catalog.compile settings options chart = .ok compiled) :
    catalog.compile settings options chart.unordered =
        .ok compiled.unsorted ∧
      ∀ other another, other.unordered = chart.unordered →
        catalog.compile settings options other = .ok another →
        another.slots = compiled.slots ∧
          ∀ overrides response,
            decode overrides another.slots response =
              decode overrides compiled.slots response := by
  have reduced := Catalog.compile_unordered compiles
  refine ⟨reduced, fun other another same compilesToo => ?_⟩
  have otherwise := Catalog.compile_unordered compilesToo
  rw [same, reduced] at otherwise
  have equal : compiled.unsorted = another.unsorted :=
    Except.ok.inj otherwise
  have slots : another.slots = compiled.slots :=
    (congrArg CompiledChart.slots equal).symm
  exact ⟨slots, fun overrides response => by rw [slots]⟩

/-- Two of three groupings are sorted by a metric, then one, and then none. -/
theorem sorting_confined_of_compile_ordered :
    Sample.reordered.unordered = Sample.ordered.unordered ∧
      ∃ compiled another,
        Sample.catalog.compile .standard .none Sample.ordered = .ok compiled ∧
          Sample.catalog.compile .standard .none Sample.reordered =
            .ok another ∧
          Sample.catalog.compile .standard .none Sample.ordered.unordered =
            .ok compiled.unsorted ∧
          compiled.unsorted ≠ compiled ∧
          decode Sample.overrides another.slots Sample.orderedResponse =
            decode Sample.overrides compiled.slots Sample.orderedResponse := by
  have plain : Sample.reordered.unordered = Sample.ordered.unordered := by
    decide +kernel
  have reduces :
      (Sample.catalog.compile .standard .none
        Sample.ordered).toOption.any
        (fun compiled => decide (compiled.unsorted ≠ compiled)) = true := by
    decide +kernel
  have succeeds :
      (Sample.catalog.compile .standard .none
        Sample.reordered).toBool = true := by
    decide +kernel
  rcases Outcome.exists_ok_of_any reduces with ⟨compiled, compiles, less⟩
  rcases Outcome.exists_ok_of_toBool succeeds with ⟨another, compilesToo⟩
  rcases sorting_confined_of_compile compiles with ⟨reduced, alike⟩
  exact ⟨plain, compiled, another, compiles, compilesToo, reduced,
    of_decide_eq_true less, (alike _ _ plain compilesToo).2 _ _⟩

end Charts

end ChartQuery
