import ChartQuery.Failure
import ChartQuery.Proofs.Catalog.Handlers
import ChartQuery.Proofs.Compilation.Nesting
import ChartQuery.Proofs.Sample
import ChartQuery.Proofs.Validation.Entries

/-!
# Compiling accepted charts

A chart that validation accepts gives compilation little to object to.  Every
entry has a handler on its own axis, because the catalog is consistent, and
every order that is written is a sort order.  What validation does not compare
is the order with the length of the value axis, and that is the only failure
left: a chart that is accepted compiles, or sorts by a position that is not
there.
-/

namespace ChartQuery

section Accepted

variable {file : CatalogFile} {catalog : Catalog} {index : IndexMapping}
  {entry : AxisEntry}

/-- An entry that passes has a handler on its axis. -/
theorem handler?_of_checkEntry {axis : Axis}
    (resolved : file.resolve = .ok catalog)
    (passes : catalog.checkEntry index axis entry = .ok ()) :
    ∃ handler, catalog.handler? entry = some handler ∧ handler.axis = axis := by
  rcases Catalog.checkEntry_eq_ok_iff.mp passes with
    ⟨function, handler, found, placed, handled, _⟩
  refine ⟨handler, ?_, ?_⟩
  · rw [Catalog.handler?, found, Option.bind_some, handled]
  · rw [← placed]
    exact CatalogFile.handler_axis_of_resolve resolved found handled

/-- A main entry that passes asks for a grouping. -/
theorem grouping_of_checkEntry
    (resolved : file.resolve = .ok catalog)
    (passes : catalog.checkEntry index .main entry = .ok ()) :
    ∃ grouping, catalog.grouping entry = .ok grouping := by
  rcases handler?_of_checkEntry resolved passes with ⟨handler, handled, placed⟩
  cases handler with
  | bucket kind =>
      exact ⟨⟨entry, kind⟩, Catalog.grouping_eq_ok_iff.mpr ⟨rfl, handled⟩⟩
  | metric kind => cases placed
  | docCount => cases placed

/-- A value entry that passes asks for a measure. -/
theorem measure_of_checkEntry
    (resolved : file.resolve = .ok catalog)
    (passes : catalog.checkEntry index .value entry = .ok ()) :
    ∃ measure, catalog.measure entry = .ok measure := by
  rcases handler?_of_checkEntry resolved passes with ⟨handler, handled, placed⟩
  cases handler with
  | bucket kind => cases placed
  | metric kind =>
      exact ⟨⟨entry, some kind⟩, Catalog.measure_eq_ok_iff.mpr ⟨rfl, handled⟩⟩
  | docCount =>
      exact ⟨⟨entry, none⟩, Catalog.measure_eq_ok_iff.mpr ⟨rfl, handled⟩⟩

end Accepted

/-- The sort order of an entry points past the value axis. -/
def SortsOutside (catalog : Catalog) (chart : Chart) (entry : AxisEntry) :
    Prop :=
  catalog.handler? entry = some (.bucket .terms) ∧
    ∃ index direction,
      entry.order? = some (.ok ⟨.valueAxis index, direction⟩) ∧
        (index < 0 ∨ ((chart.entries .value).length : Int) ≤ index)

/-- A sort fault with a proper order is a position past the value axis. -/
theorem sortFault?_eq_some_iff
    {measures : List Measure} {grouping : Grouping} {failure : CompileError}
    (proper : ∀ error, grouping.entry.order? ≠ some (.error error)) :
    grouping.sortFault? measures = some failure ↔
      grouping.kind = .terms ∧ ∃ index direction,
        grouping.entry.order? = some (.ok ⟨.valueAxis index, direction⟩) ∧
          (index < 0 ∨ (measures.length : Int) ≤ index) ∧
          failure = .orderIndexOutOfRange index measures.length := by
  rcases grouping with ⟨entry, kind⟩
  unfold Grouping.sortFault?
  cases kind with
  | dateHistogram => simp
  | histogram => simp
  | terms =>
      cases asked : entry.order? with
      | none => simp
      | some parsed =>
          cases parsed with
          | error error => exact (proper error asked).elim
          | ok order =>
              rcases order with ⟨target, direction⟩
              cases target with
              | docCount => simp
              | valueAxis index =>
                  by_cases outside :
                      index < 0 ∨ (measures.length : Int) ≤ index
                  · simp [outside, eq_comm]
                  · simp [outside]

section Stages

variable {file : CatalogFile} {catalog : Catalog} {chart : Chart}
  {groupings : List Grouping} {measures : List Measure}

/-- An accepted chart gets past the handlers, and its orders are proper. -/
theorem stages_of_validate
    (resolved : file.resolve = .ok catalog)
    (valid : catalog.validate chart = .ok ()) :
    (∃ groupings,
        resolveAll catalog.grouping (chart.entries .main) = .ok groupings) ∧
      (∃ measures,
        resolveAll catalog.measure (chart.entries .value) = .ok measures) ∧
      ∀ entry ∈ chart.entries .main, ∀ error,
        entry.order? ≠ some (.error error) := by
  rcases Catalog.validate_eq_ok_iff.mp valid with
    ⟨index, _, _, _, _, _, passes⟩
  refine ⟨?_, ?_, ?_⟩
  · exact exists_resolveAll (fun entry member =>
      grouping_of_checkEntry resolved (passes .main entry member))
  · exact exists_resolveAll (fun entry member =>
      measure_of_checkEntry resolved (passes .value entry member))
  · intro entry member error asked
    rcases order_of_checkEntry (passes .main entry member) asked with
      ⟨order, impossible⟩
    cases impossible

/-- A grouping has a sort fault when its entry sorts outside, and only then. -/
theorem sortFault?_iff_sortsOutside
    (mains : resolveAll catalog.grouping (chart.entries .main) = .ok groupings)
    (values : resolveAll catalog.measure (chart.entries .value) = .ok measures)
    (proper : ∀ entry ∈ chart.entries .main, ∀ error,
      entry.order? ≠ some (.error error))
    {grouping : Grouping} (member : grouping ∈ groupings)
    (failure : CompileError) :
    grouping.sortFault? measures = some failure ↔
      grouping.entry ∈ chart.entries .main ∧
        catalog.handler? grouping.entry = some (.bucket .terms) ∧
        ∃ index direction,
          grouping.entry.order? = some (.ok ⟨.valueAxis index, direction⟩) ∧
            (index < 0 ∨ ((chart.entries .value).length : Int) ≤ index) ∧
            failure =
              .orderIndexOutOfRange index (chart.entries .value).length := by
  have length : (chart.entries .value).length = measures.length :=
    (resolveAll_eq_ok_iff.mp values).length_eq
  rcases Outcome.exists_of_mem_right (resolveAll_eq_ok_iff.mp mains) member with
    ⟨entry, written, made⟩
  rcases Catalog.grouping_eq_ok_iff.mp made with ⟨rfl, handled⟩
  have terms : catalog.handler? grouping.entry = some (.bucket .terms) ↔
      grouping.kind = .terms := by
    simp [handled]
  rw [sortFault?_eq_some_iff (proper grouping.entry written), terms, length,
    and_iff_right written]

/-- Some grouping has a sort fault exactly when some entry sorts outside. -/
theorem exists_sortFault?_iff
    (mains : resolveAll catalog.grouping (chart.entries .main) = .ok groupings)
    (values : resolveAll catalog.measure (chart.entries .value) = .ok measures)
    (proper : ∀ entry ∈ chart.entries .main, ∀ error,
      entry.order? ≠ some (.error error)) :
    (∃ grouping ∈ groupings, ∃ failure,
        grouping.sortFault? measures = some failure) ↔
      ∃ entry ∈ chart.entries .main, SortsOutside catalog chart entry := by
  have faults := fun {grouping} (member : grouping ∈ groupings) =>
    sortFault?_iff_sortsOutside mains values proper member
  constructor
  · rintro ⟨grouping, member, failure, faulty⟩
    rcases (faults member failure).mp faulty with
      ⟨written, handled, index, direction, asked, outside, _⟩
    exact ⟨grouping.entry, written, handled, index, direction, asked, outside⟩
  · rintro ⟨entry, written, handled, index, direction, asked, outside⟩
    rcases Outcome.exists_of_mem_left (resolveAll_eq_ok_iff.mp mains) written with
      ⟨grouping, member, made⟩
    rcases Catalog.grouping_eq_ok_iff.mp made with ⟨rfl, _⟩
    exact ⟨grouping, member, _, (faults member _).mpr
      ⟨written, handled, index, direction, asked, outside, rfl⟩⟩

end Stages

/--
An accepted chart compiles, or it sorts by a position past its value axis; it
does the latter exactly when one of its top-values entries says so, and the
failure is then the caller's to mend.
-/
theorem compile_of_validate
    {file : CatalogFile} {catalog : Catalog} {chart : Chart}
    (settings : CompilerSettings) (options : CompileOptions)
    (resolved : file.resolve = .ok catalog)
    (valid : catalog.validate chart = .ok ()) :
    ((∃ compiled,
        catalog.compile settings options chart = .ok compiled) ∨
      ∃ index,
        catalog.compile settings options chart =
          .error (.orderIndexOutOfRange index
            (chart.entries .value).length)) ∧
    ((∃ index available,
        catalog.compile settings options chart =
          .error (.orderIndexOutOfRange index available)) ↔
      ∃ entry ∈ chart.entries .main, SortsOutside catalog chart entry) ∧
    ∀ failure, catalog.compile settings options chart = .error failure →
      (Failure.compilation failure).status? = some 400 := by
  rcases stages_of_validate resolved valid with
    ⟨⟨groupings, mains⟩, ⟨measures, values⟩, proper⟩
  have fails : ∀ failure,
      catalog.compile settings options chart = .error failure ↔
        innermostFault? measures groupings = some failure :=
    fun failure => Catalog.compile_eq_error_iff mains values
  have missed : ∀ failure,
      catalog.compile settings options chart = .error failure →
        ∃ index, failure =
          .orderIndexOutOfRange index (chart.entries .value).length := by
    intro failure failed
    rcases mem_of_innermostFault? ((fails failure).mp failed) with
      ⟨grouping, member, faulty⟩
    rcases (sortFault?_iff_sortsOutside mains values proper member failure).mp
        faulty with
      ⟨_, _, index, _, _, _, same⟩
    exact ⟨index, same⟩
  refine ⟨?_, ?_, ?_⟩
  · cases outcome : catalog.compile settings options chart with
    | ok compiled => exact Or.inl ⟨compiled, rfl⟩
    | error failure =>
        rcases missed failure outcome with ⟨index, rfl⟩
        exact Or.inr ⟨index, rfl⟩
  · rw [← exists_sortFault?_iff mains values proper]
    constructor
    · rintro ⟨index, available, failed⟩
      rcases mem_of_innermostFault? ((fails _).mp failed) with
        ⟨grouping, member, faulty⟩
      exact ⟨grouping, member, _, faulty⟩
    · rintro ⟨grouping, member, failure, faulty⟩
      rcases Option.ne_none_iff_exists'.mp
          (innermostFault?_ne_none member faulty) with
        ⟨other, found⟩
      have failed := (fails other).mpr found
      rcases missed other failed with ⟨index, rfl⟩
      exact ⟨index, _, failed⟩
  · intro failure failed
    rcases missed failure failed with ⟨index, rfl⟩
    rfl

/-- An accepted chart that sorts by the fourth of two values. -/
theorem compile_of_validate_unreachable :
    Sample.catalog.validate Sample.unreachable = .ok () ∧
      ∃ index available,
        Sample.catalog.compile .standard .none Sample.unreachable =
          .error (.orderIndexOutOfRange index available) := by
  have accepted : (Sample.catalog.validate Sample.unreachable).toBool = true := by
    decide +kernel
  rcases Outcome.exists_ok_of_toBool accepted with ⟨_, valid⟩
  have outcome :=
    compile_of_validate .standard .none Sample.resolve_builtin valid
  refine ⟨valid, outcome.2.1.mpr ⟨Sample.topStates (Sample.orderBy "3" "desc"),
    List.mem_cons_self, ?_, 3, .desc, ?_, ?_⟩⟩
  · decide +kernel
  · rfl
  · decide

end ChartQuery
