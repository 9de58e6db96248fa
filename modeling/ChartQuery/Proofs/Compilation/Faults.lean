import ChartQuery.Proofs.Chart.Options
import ChartQuery.Proofs.Compilation.Nesting

/-!
# What keeps a chart from compiling

`Catalog.faults` lists everything that is wrong with a chart, checked or not:
first the main entries that have no grouping, from the outermost inwards, then
the value entries that have no measure, then the bad sort orders, from the
innermost outwards.  Compilation fails with the first fault of this list and
gives a result when the list is empty; `Catalog.Compilable` says the same
without an order.  No fault is ever a collision of identifiers.
-/

namespace ChartQuery

/-! ## Faults of entries -/

/-- What keeps an entry from standing on an axis. -/
def Catalog.placementFault? (catalog : Catalog) (axis : Axis)
    (entry : AxisEntry) : Option CompileError :=
  match catalog.function? entry.function with
  | none => some (.unknownFunction entry.function)
  | some function =>
      match function.handler with
      | none => some (.missingAggregationType function.id)
      | some handler =>
          if handler.axis = axis then none
          else some (.functionAxisMismatch entry.function axis)

/-- What is wrong with the order of a main entry; only top values have one. -/
def Catalog.orderFault? (catalog : Catalog) (chart : Chart)
    (entry : AxisEntry) : Option CompileError :=
  let length := (chart.entries .value).length
  if catalog.handler? entry = some (.bucket .terms) then
    match entry.order? with
    | none => none
    | some (.error error) => some (.invalidOrder error)
    | some (.ok ⟨.docCount, _⟩) => none
    | some (.ok ⟨.valueAxis index, _⟩) =>
        if 0 ≤ index ∧ index < length then none
        else some (.orderIndexOutOfRange index length)
  else none

/-- All faults of a chart, in the order in which they are met. -/
def Catalog.faults (catalog : Catalog) (chart : Chart) : List CompileError :=
  (chart.entries .main).filterMap (catalog.placementFault? .main) ++
    (chart.entries .value).filterMap (catalog.placementFault? .value) ++
    (chart.entries .main).reverse.filterMap (catalog.orderFault? chart)

/-- The order of a top-values entry is left out or can be followed. -/
def AxisEntry.HasGoodOrder (entry : AxisEntry) (values : Nat) : Prop :=
  Keyed.get? "order" entry.options = none ∨
    Keyed.get? "order" entry.options = some .null ∨
    ∃ target direction, entry.Asks ⟨target, direction⟩ ∧
      (target = .docCount ∨
        ∃ position : Nat, target = .valueAxis position ∧ position < values)

/-- Every function is known and has a fitting handler, every order is good. -/
structure Catalog.Compilable (catalog : Catalog) (chart : Chart) : Prop where
  main : ∀ entry ∈ chart.entries .main, ∃ function kind,
    catalog.function? entry.function = some function ∧
      function.handler = some (.bucket kind)
  value : ∀ entry ∈ chart.entries .value, ∃ function,
    catalog.function? entry.function = some function ∧
      ((∃ kind, function.handler = some (.metric kind)) ∨
        function.handler = some .docCount)
  order : ∀ entry ∈ chart.entries .main,
    catalog.handler? entry = some (.bucket .terms) →
      entry.HasGoodOrder (chart.entries .value).length

/-! ## Absence of faults -/

theorem Catalog.placementFault?_eq_none_iff {catalog : Catalog} {axis : Axis}
    {entry : AxisEntry} :
    catalog.placementFault? axis entry = none ↔
      ∃ function handler, catalog.function? entry.function = some function ∧
        function.handler = some handler ∧ handler.axis = axis := by
  unfold Catalog.placementFault?
  cases catalog.function? entry.function with
  | none => simp
  | some function =>
      cases handled : function.handler with
      | none => simp [handled]
      | some handler => simp [handled]

theorem AxisEntry.hasGoodOrder_iff {entry : AxisEntry} {values : Nat} :
    entry.HasGoodOrder values ↔
      entry.order? = none ∨
        ∃ target direction, entry.order? = some (.ok ⟨target, direction⟩) ∧
          (target = .docCount ∨ ∃ position : Nat,
            target = .valueAxis position ∧ position < values) := by
  simp only [AxisEntry.HasGoodOrder, AxisEntry.order?_eq_none_iff,
    AxisEntry.order?_eq_ok_iff, or_assoc]

theorem Catalog.orderFault?_eq_none_iff {catalog : Catalog} {chart : Chart}
    {entry : AxisEntry} :
    catalog.orderFault? chart entry = none ↔
      (catalog.handler? entry = some (.bucket .terms) →
        entry.HasGoodOrder (chart.entries .value).length) := by
  rw [AxisEntry.hasGoodOrder_iff]
  unfold Catalog.orderFault?
  by_cases terms : catalog.handler? entry = some (.bucket .terms)
  · simp only [terms, if_true, true_implies]
    cases entry.order? with
    | none => simp
    | some parsed =>
        cases parsed with
        | error error => simp
        | ok order =>
            rcases order with ⟨target, direction⟩
            cases target with
            | docCount => simp
            | valueAxis index =>
                have reached :
                    (0 ≤ index ∧
                        index < ((chart.entries .value).length : Int)) ↔
                      ∃ position : Nat, index = position ∧
                        position < (chart.entries .value).length := by
                  constructor
                  · rintro ⟨nonnegative, inside⟩
                    exact ⟨index.toNat, by omega, by omega⟩
                  · rintro ⟨position, rfl, inside⟩
                    omega
                simp [reached]
  · simp [terms]

/-- A chart has no fault when all its functions and orders are good. -/
theorem Catalog.faults_eq_nil_iff {catalog : Catalog} {chart : Chart} :
    catalog.faults chart = [] ↔ catalog.Compilable chart := by
  simp only [Catalog.faults, List.append_eq_nil_iff, List.filterMap_eq_nil_iff,
    List.mem_reverse, Catalog.placementFault?_eq_none_iff,
    Catalog.orderFault?_eq_none_iff]
  constructor
  · rintro ⟨⟨mains, values⟩, orders⟩
    constructor
    · intro entry member
      rcases mains entry member with ⟨function, handler, known, handled, placed⟩
      cases handler with
      | bucket kind => exact ⟨function, kind, known, handled⟩
      | metric kind => cases placed
      | docCount => cases placed
    · intro entry member
      rcases values entry member with
        ⟨function, handler, known, handled, placed⟩
      cases handler with
      | bucket kind => cases placed
      | metric kind => exact ⟨function, known, Or.inl ⟨kind, handled⟩⟩
      | docCount => exact ⟨function, known, Or.inr handled⟩
    · exact orders
  · intro compilable
    refine ⟨⟨?_, ?_⟩, compilable.order⟩
    · intro entry member
      rcases compilable.main entry member with ⟨function, kind, known, handled⟩
      exact ⟨function, .bucket kind, known, handled, rfl⟩
    · intro entry member
      rcases compilable.value entry member with
        ⟨function, known, ⟨kind, handled⟩ | handled⟩
      · exact ⟨function, .metric kind, known, handled, rfl⟩
      · exact ⟨function, .docCount, known, handled, rfl⟩

/-- None of the faults is a collision of identifiers. -/
theorem Catalog.collision_not_mem_faults (catalog : Catalog) (chart : Chart)
    (id : String) :
    CompileError.aggregationIdCollision id ∉ catalog.faults chart := by
  have placement : ∀ axis entry,
      catalog.placementFault? axis entry ≠ some (.aggregationIdCollision id) := by
    intro axis entry
    unfold Catalog.placementFault?
    split
    · simp
    · split
      · simp
      · split <;> simp
  have order : ∀ entry,
      catalog.orderFault? chart entry ≠ some (.aggregationIdCollision id) := by
    intro entry
    unfold Catalog.orderFault?
    split
    · split
      · simp
      · simp
      · simp
      · dsimp only
        split <;> simp
    · simp
  simp only [Catalog.faults, List.mem_append, List.mem_filterMap, not_or]
  refine ⟨⟨?_, ?_⟩, ?_⟩
  · rintro ⟨entry, _, fault⟩
    exact placement .main entry fault
  · rintro ⟨entry, _, fault⟩
    exact placement .value entry fault
  · rintro ⟨entry, _, fault⟩
    exact order entry fault

/-! ## Stages -/

/-- A step that takes the handlers of one axis reports a misplaced entry. -/
theorem Catalog.reports_placed {α : Type} (catalog : Catalog) (axis : Axis)
    (entry : AxisEntry) (place : Handler → Except CompileError α)
    (each : ∀ handler, Outcome.Reports (place handler)
      (Outcome.faultUnless (handler.axis = axis)
        (.functionAxisMismatch entry.function axis))) :
    Outcome.Reports (catalog.handler entry >>= place)
      (catalog.placementFault? axis entry).toList := by
  unfold Catalog.handler Catalog.placementFault?
  cases catalog.function? entry.function with
  | none => exact Outcome.reports_error _ []
  | some function =>
      cases handled : function.handler with
      | none =>
          simp only [handled]
          exact Outcome.reports_error _ []
      | some handler =>
          simp only [handled, apply_ite Option.toList]
          exact each handler

theorem Catalog.reports_grouping (catalog : Catalog) (entry : AxisEntry) :
    Outcome.Reports (catalog.grouping entry)
      (catalog.placementFault? .main entry).toList := by
  refine catalog.reports_placed .main entry _ fun handler => ?_
  cases handler with
  | bucket kind => exact Outcome.reports_ok _
  | metric kind => exact Outcome.reports_error _ []
  | docCount => exact Outcome.reports_error _ []

theorem Catalog.reports_measure (catalog : Catalog) (entry : AxisEntry) :
    Outcome.Reports (catalog.measure entry)
      (catalog.placementFault? .value entry).toList := by
  refine catalog.reports_placed .value entry _ fun handler => ?_
  cases handler with
  | bucket kind => exact Outcome.reports_error _ []
  | metric kind => exact Outcome.reports_ok _
  | docCount => exact Outcome.reports_ok _

/-- Entries are resolved in order, and the first that has a fault is reported. -/
theorem reports_resolveAll {α : Type}
    {resolve : AxisEntry → Except CompileError α}
    {fault? : AxisEntry → Option CompileError}
    (each : ∀ entry, Outcome.Reports (resolve entry) (fault? entry).toList)
    (entries : List AxisEntry) :
    Outcome.Reports (resolveAll resolve entries) (entries.filterMap fault?) := by
  rw [List.filterMap_eq_flatMap_toList]
  induction entries with
  | nil => exact Outcome.reports_ok []
  | cons entry rest ih =>
      rw [List.flatMap_cons]
      exact (each entry).bind fun first _ => ih.map (first :: ·)

/-- A grouping has the order fault of its entry. -/
theorem Catalog.orderFault?_eq_sortFault?
    {catalog : Catalog} {chart : Chart} {measures : List Measure}
    {entry : AxisEntry} {grouping : Grouping}
    (made : catalog.grouping entry = .ok grouping)
    (length : (chart.entries .value).length = measures.length) :
    catalog.orderFault? chart entry = grouping.sortFault? measures := by
  rcases Catalog.grouping_eq_ok_iff.mp made with ⟨rfl, handled⟩
  rcases grouping with ⟨entry, kind⟩
  unfold Catalog.orderFault? Grouping.sortFault?
  rw [handled, length]
  cases kind with
  | dateHistogram => simp
  | histogram => simp
  | terms =>
      cases entry.order? with
      | none => simp
      | some parsed =>
          cases parsed with
          | error error => simp
          | ok order =>
              rcases order with ⟨target, direction⟩
              cases target with
              | docCount => simp
              | valueAxis index =>
                  by_cases inside : 0 ≤ index ∧ index < measures.length
                  · have reached :
                        ¬(index < 0 ∨ (measures.length : Int) ≤ index) := by
                      omega
                    simp [inside, reached]
                  · have missed :
                        index < 0 ∨ (measures.length : Int) ≤ index := by
                      omega
                    simp [inside, missed]

/-- The innermost fault is the first one when the entries are read backwards. -/
theorem innermostFault?_eq_head?
    {catalog : Catalog} {chart : Chart} {measures : List Measure}
    {entries : List AxisEntry} {groupings : List Grouping}
    (made : List.Forall₂
      (fun entry grouping => catalog.grouping entry = .ok grouping)
      entries groupings)
    (length : (chart.entries .value).length = measures.length) :
    innermostFault? measures groupings =
      (entries.reverse.filterMap (catalog.orderFault? chart)).head? := by
  induction made with
  | nil => rfl
  | cons here later ih =>
      rw [innermostFault?, ih,
        ← Catalog.orderFault?_eq_sortFault? here length, List.reverse_cons,
        List.filterMap_append, List.head?_append]
      congr 1
      cases fault : catalog.orderFault? chart _ <;> simp [fault]

/-- Compilation reports the faults of the chart. -/
theorem Catalog.reports_compile (catalog : Catalog)
    (settings : CompilerSettings) (options : CompileOptions) (chart : Chart) :
    Outcome.Reports (catalog.compile settings options chart)
      (catalog.faults chart) := by
  unfold Catalog.compile Catalog.faults
  rw [List.append_assoc]
  refine (reports_resolveAll catalog.reports_grouping _).bind
    fun groupings mains => ?_
  refine (reports_resolveAll catalog.reports_measure _).bind
    fun measures values => ?_
  have length : (chart.entries .value).length = measures.length :=
    (resolveAll_eq_ok_iff.mp values).length_eq
  have nested : Outcome.Reports
      (nest (settings.override options) measures (groupings.length + 1) 0
        groupings)
      ((chart.entries .main).reverse.filterMap (catalog.orderFault? chart)) := by
    intro failure
    rw [nest_eq_error_iff,
      innermostFault?_eq_head? (resolveAll_eq_ok_iff.mp mains) length]
  exact nested.map _

/-! ## Charts -/

/--
A chart compiles exactly when its functions and orders are good, and otherwise
fails with its first fault; identifiers never collide.
-/
theorem Catalog.compile_outcome (catalog : Catalog)
    (settings : CompilerSettings) (options : CompileOptions) (chart : Chart) :
    ((∃ compiled, catalog.compile settings options chart = .ok compiled) ↔
      catalog.Compilable chart) ∧
    (∀ failure, catalog.compile settings options chart = .error failure ↔
      (catalog.faults chart).head? = some failure) ∧
    ∀ id, catalog.compile settings options chart ≠
      .error (.aggregationIdCollision id) := by
  have reports := catalog.reports_compile settings options chart
  refine ⟨?_, reports, ?_⟩
  · rw [reports.exists_ok_iff, Catalog.faults_eq_nil_iff]
  · intro id failed
    have first := (reports _).mp failed
    exact catalog.collision_not_mem_faults chart id (List.mem_of_head? first)

end ChartQuery
