import ChartQuery.Proofs.Compilation.Groupings
import ChartQuery.Proofs.Compilation.InnermostSlots

/-!
# Levels of a compiled chart

The levels of a request and of its slot map are reached by following the
identifiers `0`, `1` and so on inwards.  Each level of a request begins with
what it is there for: the next grouping or, inside all groupings, the metrics of
the value axis.  An auxiliary metric may come behind that.  The slot map has the
slots of the value axis on its last level.
-/

namespace ChartQuery

/-- Follow the numbers from `first` on, down to the level inside the last one. -/
def Aggregations.levelFrom? (first : Nat) :
    Nat → Aggregations → Option Aggregations
  | 0, level => some level
  | steps + 1, level => do
      let node ← Keyed.get? first.repr level
      let below ← node.children
      levelFrom? (first + 1) steps below

/-- The level of a request inside a number of groupings. -/
def Aggregations.levelAt? (aggregations : Aggregations) (depth : Nat) :
    Option Aggregations :=
  levelFrom? 0 depth aggregations

/-- Follow the numbers from `first` on, down to the level inside the last one. -/
def Slots.levelFrom? (first : Nat) : Nat → Slots → Option Slots
  | 0, level => some level
  | steps + 1, level => do
      let slot ← Keyed.get? first.repr level
      levelFrom? (first + 1) steps slot.children

/-- The level of a slot map inside a number of groupings. -/
def Slots.levelAt? (slots : Slots) (depth : Nat) : Option Slots :=
  levelFrom? 0 depth slots

/-! ## Nested levels -/

theorem Aggregations.levelFrom?_succ (first steps : Nat)
    (aggregations : Aggregations) :
    levelFrom? first (steps + 1) aggregations =
      (levelFrom? first steps aggregations).bind fun level =>
        (Keyed.get? (first + steps).repr level).bind Aggregation.children := by
  induction steps generalizing first aggregations with
  | zero =>
      simp [levelFrom?, Option.bind_eq_bind]
  | succ steps ih =>
      have inwards : first + (steps + 1) = first + 1 + steps := by omega
      rw [levelFrom?, levelFrom?, inwards]
      simp only [ih, Option.bind_eq_bind, Option.bind_assoc]

section Nested

variable {settings : CompilerSettings} {measures : List Measure}
  {firstMetric first steps : Nat} {groupings : List Grouping}
  {grouping : Grouping} {aggregations : Aggregations} {slots : Slots}

/-- Sorting a level adds to that level only, not to those further inside. -/
theorem auxiliary_levelFrom?_of_sorted
    {depth : Nat} {own : Option Nat} {below after level : Aggregations}
    {order : Keyed String SortDirection}
    (sorted : grouping.sorted measures depth own below = .ok (order, after))
    (reached : Aggregations.levelFrom? first steps below = some level) :
    ∃ extra,
      Aggregations.levelFrom? first steps after = some (level ++ extra) ∧
        Auxiliary level extra ∧ (steps ≠ 0 → extra = []) := by
  cases steps with
  | zero =>
      rcases Grouping.auxiliary_of_sorted sorted with ⟨extra, rfl, auxiliary⟩
      cases reached
      exact ⟨extra, rfl, auxiliary, nofun⟩
  | succ steps =>
      rcases Option.bind_eq_some_iff.mp reached with ⟨node, there, inside⟩
      refine ⟨[], ?_, Or.inl rfl, fun _ => rfl⟩
      rw [List.append_nil]
      exact Option.bind_eq_some_iff.mpr
        ⟨node, Grouping.get?_of_sorted sorted there, inside⟩

/-- What a level is there for: the next grouping, and in the end the metrics. -/
inductive Asked (settings : CompilerSettings) (measures : List Measure)
    (firstMetric first : Nat) (groupings : List Grouping) :
    Nat → Aggregations → Prop where
  | grouping {steps : Nat} {grouping : Grouping}
      {order : Keyed String SortDirection} {below : Aggregations}
      (next : groupings[steps]? = some grouping) :
      Asked settings measures firstMetric first groupings steps
        [((first + steps).repr,
          .bucket (grouping.operator settings order) below)]
  | metrics :
      Asked settings measures firstMetric first groupings groupings.length
        (metrics firstMetric measures)

theorem Asked.inside {asked : Aggregations}
    (inner : Asked settings measures firstMetric (first + 1) groupings steps
      asked) :
    Asked settings measures firstMetric first (grouping :: groupings)
      (steps + 1) asked := by
  cases inner with
  | grouping next =>
      rw [Nat.add_assoc, Nat.add_comm 1]
      exact .grouping next
  | metrics => exact .metrics

/-- Whatever is asked for or added, its identifier is a number. -/
theorem Asked.exists_number {asked extra : Aggregations} {id : String}
    (fits : Asked settings measures firstMetric first groupings steps asked)
    (auxiliary : Auxiliary asked extra)
    (member : id ∈ Keyed.keys (asked ++ extra)) :
    ∃ number : Nat, id = number.repr := by
  rcases List.mem_map.mp member with ⟨⟨id, node⟩, held, rfl⟩
  rcases List.mem_append.mp held with there | added
  · cases fits with
    | grouping next =>
        cases List.mem_singleton.mp there
        exact ⟨_, rfl⟩
    | metrics =>
        rcases mem_metrics.mp there with ⟨position, _, _, _, numbered, _⟩
        exact ⟨_, numbered⟩
  · rcases auxiliary with rfl | ⟨number, kind, field, _, rfl⟩
    · cases added
    · cases List.mem_singleton.mp added
      exact ⟨number, rfl⟩

/-- Every level holds what it is there for, and an auxiliary metric at most. -/
theorem exists_levelFrom?_nest
    (nested : nest settings measures firstMetric first groupings =
      .ok (aggregations, slots))
    (inside : steps ≤ groupings.length) :
    ∃ asked extra,
      Aggregations.levelFrom? first steps aggregations =
          some (asked ++ extra) ∧
        Asked settings measures firstMetric first groupings steps asked ∧
        Auxiliary asked extra ∧ (steps = 0 → extra = []) := by
  induction groupings generalizing first steps aggregations slots with
  | nil =>
      cases nested
      have outermost : steps = 0 := by simpa using inside
      subst outermost
      exact ⟨_, [], by simp [Aggregations.levelFrom?], .metrics, Or.inl rfl,
        fun _ => rfl⟩
  | cons grouping rest ih =>
      rcases nest_cons_eq_ok_iff.mp nested with
        ⟨below, inner, order, after, deeper, sorted, rfl, rfl⟩
      cases steps with
      | zero => exact ⟨_, [], rfl, .grouping rfl, Or.inl rfl, fun _ => rfl⟩
      | succ steps =>
          rcases ih deeper (Nat.le_of_succ_le_succ inside) with
            ⟨asked, extra, reached, fits, auxiliary, outermost⟩
          rcases auxiliary_levelFrom?_of_sorted sorted reached with
            ⟨added, there, addition, further⟩
          -- This grouping adds to the level right inside it only.
          have single : Auxiliary asked (extra ++ added) := by
            by_cases next : steps = 0
            · rw [outermost next] at addition ⊢
              simpa using addition
            · rw [further next, List.append_nil]
              exact auxiliary
          refine ⟨asked, extra ++ added, ?_, fits.inside, single, nofun⟩
          simpa [Aggregations.levelFrom?, Keyed.get?, Aggregation.bucket,
            Aggregation.children] using there

/-- Inside all nested groupings are the slots of the values. -/
theorem slots_levelFrom?_nest
    (nested : nest settings measures firstMetric first groupings =
      .ok (aggregations, slots)) :
    Slots.levelFrom? first groupings.length slots =
      some (innermostSlots firstMetric measures) := by
  induction groupings generalizing first aggregations slots with
  | nil =>
      cases nested
      rfl
  | cons grouping rest ih =>
      rcases nest_cons_eq_ok_iff.mp nested with
        ⟨below, inner, order, after, deeper, sorted, rfl, rfl⟩
      simpa [Slots.levelFrom?, Keyed.get?, Slot.main, Slot.children]
        using ih deeper

end Nested

/-! ## One measure -/

section Innermost

variable {measures : List Measure} {firstMetric : Nat}

/-- On its level a metric is found under its number, whatever is behind it. -/
theorem get?_metrics_append (firstMetric : Nat) {position : Nat}
    {entry : AxisEntry} {kind : MetricKind}
    (found : measures[position]? = some ⟨entry, some kind⟩)
    (extra : Aggregations) :
    Keyed.get? (firstMetric + position).repr
        (metrics firstMetric measures ++ extra) =
      some (.metric kind entry.field) := by
  rw [Keyed.get?_append, get?_metrics found, Option.some_or]

/-- A slot with the number of a position belongs to the metric there. -/
theorem metric_of_mem_innermostSlots {position : Nat} {slot : Slot}
    (member : ((firstMetric + position).repr, slot) ∈
      innermostSlots firstMetric measures) :
    slot = .value position ∧
      ∃ entry kind, measures[position]? = some ⟨entry, some kind⟩ := by
  rcases mem_innermostSlots member with
    ⟨other, ⟨entry, kind?⟩, there, numbered, rfl⟩
  cases kind? with
  | none =>
      rw [Measure.slotId_count rfl] at numbered
      exact (countId_ne_repr _ numbered.symm).elim
  | some kind =>
      rw [Measure.slotId_metric rfl] at numbered
      have same : position = other :=
        Nat.add_left_cancel (Nat.repr_inj.mp numbered)
      subst same
      exact ⟨rfl, entry, kind, there⟩

/-- A metric has the slot of its own number. -/
theorem get?_innermostSlots (firstMetric : Nat) {position : Nat}
    {entry : AxisEntry} {kind : MetricKind}
    (found : measures[position]? = some ⟨entry, some kind⟩) :
    Keyed.get? (firstMetric + position).repr
        (innermostSlots firstMetric measures) =
      some (.value position) := by
  have present : Measure.slotId (firstMetric + position) ⟨entry, some kind⟩ ∈
      Keyed.keys (innermostSlots firstMetric measures) :=
    slotId_mem_keys_innermostSlots found
  rw [Measure.slotId_metric rfl] at present
  rcases List.mem_map.mp present with ⟨⟨id, slot⟩, member, rfl⟩
  rw [← (metric_of_mem_innermostSlots member).1]
  exact Keyed.get?_of_mem (distinct_innermostSlots _ _) member

/-- A count has the slot `count` and none of its own number. -/
theorem countId_mem_innermostSlots (firstMetric : Nat) {position : Nat}
    {entry : AxisEntry} (found : measures[position]? = some ⟨entry, none⟩) :
    countId ∈ Keyed.keys (innermostSlots firstMetric measures) ∧
      (firstMetric + position).repr ∉
        Keyed.keys (innermostSlots firstMetric measures) := by
  constructor
  · have present : Measure.slotId (firstMetric + position) ⟨entry, none⟩ ∈
        Keyed.keys (innermostSlots firstMetric measures) :=
      slotId_mem_keys_innermostSlots found
    rwa [Measure.slotId_count rfl] at present
  · intro present
    rcases List.mem_map.mp present with ⟨⟨id, slot⟩, member, rfl⟩
    rcases metric_of_mem_innermostSlots member with ⟨_, _, kind, there⟩
    rw [found] at there
    cases there

end Innermost

/-! ## Charts -/

/-- Every identifier in the request of a compiled chart is a number. -/
theorem Catalog.exists_number_of_compile
    {catalog : Catalog} {settings : CompilerSettings}
    {options : CompileOptions} {chart : Chart} {compiled : CompiledChart}
    (compiles : catalog.compile settings options chart = .ok compiled)
    {depth : Nat} (inside : depth ≤ (chart.entries .main).length)
    {level : Aggregations}
    (reached : compiled.request.aggregations.levelAt? depth = some level)
    {id : String} (member : id ∈ Keyed.keys level) :
    ∃ number : Nat, id = number.repr := by
  rcases Catalog.compile_eq_ok_iff.mp compiles with
    ⟨groupings, measures, aggregations, slots, mains, values, nested, rfl⟩
  rw [(resolveAll_eq_ok_iff.mp mains).length_eq] at inside
  rcases exists_levelFrom?_nest nested inside with
    ⟨asked, extra, there, fits, auxiliary, _⟩
  rw [Aggregations.levelAt?, there] at reached
  cases reached
  exact fits.exists_number auxiliary member

/--
Inside all groupings of a compiled chart stands what its value entries resolve
to: metrics in the request, before anything else, and their slots in the slot
map.
-/
theorem Catalog.exists_innermost_of_compile
    {catalog : Catalog} {settings : CompilerSettings}
    {options : CompileOptions} {chart : Chart} {compiled : CompiledChart}
    (compiles : catalog.compile settings options chart = .ok compiled) :
    ∃ measures extra,
      resolveAll catalog.measure (chart.entries .value) = .ok measures ∧
        compiled.request.aggregations.levelAt? (chart.entries .main).length =
          some (metrics ((chart.entries .main).length + 1) measures ++
            extra) ∧
        compiled.slots.levelAt? (chart.entries .main).length =
          some (innermostSlots ((chart.entries .main).length + 1)
            measures) ∧
        Auxiliary (metrics ((chart.entries .main).length + 1) measures)
          extra ∧
        (chart.entries .main = [] → extra = []) := by
  rcases Catalog.compile_eq_ok_iff.mp compiles with
    ⟨groupings, measures, aggregations, slots, mains, values, nested, rfl⟩
  have count : (chart.entries .main).length = groupings.length :=
    (resolveAll_eq_ok_iff.mp mains).length_eq
  rcases exists_levelFrom?_nest nested le_rfl with
    ⟨asked, extra, reached, fits, auxiliary, outermost⟩
  cases fits with
  | grouping next => simp at next
  | metrics =>
      rw [count]
      refine ⟨measures, extra, values, reached, slots_levelFrom?_nest nested,
        auxiliary, fun none => outermost ?_⟩
      rw [← count, none, List.length_nil]

end ChartQuery
