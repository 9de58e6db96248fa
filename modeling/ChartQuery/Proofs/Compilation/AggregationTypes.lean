import ChartQuery.Proofs.Compilation.Levels
import ChartQuery.Proofs.Compilation.Validated
import ChartQuery.Proofs.Validation.AllowedValues

/-!
# Aggregation types of entries

A function may allow several aggregation types, and an entry may give any of
them.  A function has one handler, though, which the first of its types names,
and it is this handler that compilation goes by.  So an entry compiles to the
operator that it gives exactly when it gives the first allowed type.
-/

namespace ChartQuery

/-- The aggregation types that the function of an entry allows. -/
def Catalog.aggregationTypes (catalog : Catalog) (entry : AxisEntry) :
    List String :=
  ((catalog.function? entry.function).bind fun function =>
    (Keyed.get? "aggregationType" function.required).join).getD []

/-- The grouping at a depth has the operator of a name. -/
def CompiledChart.Groups (compiled : CompiledChart) (depth : Nat)
    (type : String) : Prop :=
  ∃ operator below,
    compiled.request.aggregations.groupingAt? depth =
        some (.bucket operator below) ∧
      operator.name = type

/--
Inside a number of groupings, the value at a position is computed by the
operator of a name.  A document count is no operator: it has the slot `count` in
place of a metric under its own number.
-/
def CompiledChart.Computes (compiled : CompiledChart)
    (groupings position : Nat) (type : String) : Prop :=
  ∃ level slots,
    compiled.request.aggregations.levelAt? groupings = some level ∧
      compiled.slots.levelAt? groupings = some slots ∧
      if type = Handler.docCount.name then
        countId ∈ Keyed.keys slots ∧
          (groupings + 1 + position).repr ∉ Keyed.keys slots
      else
        ∃ operator,
          Keyed.get? (groupings + 1 + position).repr level =
              some (.node operator none) ∧
            operator.name = type ∧
            Keyed.get? (groupings + 1 + position).repr slots =
              some (.value position)

/-! ## Compilation -/

section Compiled

variable {catalog : Catalog} {settings : CompilerSettings}
  {options : CompileOptions} {chart : Chart} {compiled : CompiledChart}
  {entry : AxisEntry}

/-- A grouping has the operator of its entry's handler, and no other. -/
theorem groups_iff_of_compile {depth : Nat}
    (compiles : catalog.compile settings options chart = .ok compiled)
    (placed : (chart.entries .main)[depth]? = some entry) (type : String) :
    compiled.Groups depth type ↔
      (catalog.handler? entry).map Handler.name = some type := by
  rcases Catalog.exists_grouping_of_compile compiles placed with
    ⟨⟨owner, kind⟩, _, _, _, order, after, made, _, _, found⟩
  rcases Catalog.grouping_eq_ok_iff.mp made with ⟨rfl, handled⟩
  have named : (catalog.handler? owner).map Handler.name = some kind.name := by
    rw [handled]
    rfl
  rw [named, Option.some.injEq]
  constructor
  · rintro ⟨operator, below, there, rfl⟩
    rw [found] at there
    cases there
    exact (Grouping.name_operator ⟨owner, kind⟩ _ _).symm
  · rintro rfl
    exact ⟨_, after, found, Grouping.name_operator ⟨owner, kind⟩ _ _⟩

theorem MetricKind.name_ne_docCount (kind : MetricKind) :
    kind.name ≠ Handler.docCount.name := by
  cases kind <;> decide

/-- A value is computed by the operator of its entry's handler, and no other. -/
theorem computes_iff_of_compile {position : Nat}
    (compiles : catalog.compile settings options chart = .ok compiled)
    (placed : (chart.entries .value)[position]? = some entry)
    (type : String) :
    compiled.Computes (chart.entries .main).length position type ↔
      (catalog.handler? entry).map Handler.name = some type := by
  rcases Catalog.exists_innermost_of_compile compiles with
    ⟨measures, extra, values, reached, slotted, _, _⟩
  rcases Outcome.exists_getElem?_of_left (resolveAll_eq_ok_iff.mp values)
      placed with
    ⟨⟨owner, kind?⟩, there, made⟩
  rcases Catalog.measure_eq_ok_iff.mp made with ⟨rfl, handled⟩
  simp only [CompiledChart.Computes, reached, slotted, handled,
    Option.some.injEq, exists_eq_left', exists_and_left, Option.map_some]
  cases kind? with
  | none =>
      have counted := countId_mem_innermostSlots
        ((chart.entries .main).length + 1) there
      have absent := (Keyed.get?_eq_none_iff _ _).mpr counted.2
      by_cases count : type = Handler.docCount.name
      · simp [count, counted, Measure.handler]
      · simp [count, absent, Measure.handler, Ne.symm count]
  | some kind =>
      have slot := get?_innermostSlots
        ((chart.entries .main).length + 1) there
      have node := get?_metrics_append
        ((chart.entries .main).length + 1) there extra
      have present : ((chart.entries .main).length + 1 + position).repr ∈
          Keyed.keys (innermostSlots ((chart.entries .main).length + 1)
            measures) :=
        Keyed.mem_keys (Keyed.mem_of_get? slot)
      by_cases count : type = Handler.docCount.name
      · rw [if_pos count]
        constructor
        · rintro ⟨_, absent⟩
          exact absurd present absent
        · intro same
          exact absurd (same.trans count) kind.name_ne_docCount
      · rw [if_neg count]
        simp [slot, node, Measure.handler, Handler.name, Aggregation.metric,
          Operator.name]

end Compiled

/-! ## Validation -/

/--
In an accepted chart an aggregation type that is given is an allowed one, and
the first of the allowed ones names the handler of the entry.
-/
theorem aggregationTypes_of_validate
    {file : CatalogFile} {catalog : Catalog} {chart : Chart} {axis : Axis}
    {entry : AxisEntry} {chosen : Json}
    (resolved : file.resolve = .ok catalog)
    (valid : catalog.validate chart = .ok ())
    (member : entry ∈ chart.entries axis)
    (given : Keyed.get? "aggregationType" entry.options = some chosen) :
    chosen.display ∈ catalog.aggregationTypes entry ∧
      (catalog.handler? entry).map Handler.name =
        (catalog.aggregationTypes entry).head? := by
  rcases Catalog.exists_allows_of_validate valid member with
    ⟨index, function, applied, allows⟩
  rcases allows.handled with ⟨handler, handled⟩
  have first :=
    CatalogFile.requiredDefault?_of_resolve resolved applied handled
  rcases Option.bind_eq_some_iff.mp first with ⟨types, declared, leads⟩
  have listed : catalog.aggregationTypes entry = types := by
    simp [Catalog.aggregationTypes, applied, declared]
  have taken : entry.given? "aggregationType" = some chosen := by
    rw [AxisEntry.given?, given, Option.some_or]
  constructor
  · rw [listed]
    exact allows.display_mem
      (Keyed.mem_of_get? (Option.join_eq_some_iff.mp declared)) taken
  · simp [listed, leads, Catalog.handler?, applied, handled]

/--
In an accepted chart that compiles, an entry that gives an aggregation type
gives one that its function allows, and it compiles to the operator of the first
one that the function allows.
-/
theorem compiles_first_of_validate
    {file : CatalogFile} {catalog : Catalog} {settings : CompilerSettings}
    {options : CompileOptions} {chart : Chart} {compiled : CompiledChart}
    (resolved : file.resolve = .ok catalog)
    (valid : catalog.validate chart = .ok ())
    (compiles : catalog.compile settings options chart = .ok compiled) :
    (∀ depth entry chosen, (chart.entries .main)[depth]? = some entry →
      Keyed.get? "aggregationType" entry.options = some chosen →
      chosen.display ∈ catalog.aggregationTypes entry ∧
        ∀ type, compiled.Groups depth type ↔
          (catalog.aggregationTypes entry).head? = some type) ∧
    ∀ position entry chosen, (chart.entries .value)[position]? = some entry →
      Keyed.get? "aggregationType" entry.options = some chosen →
      chosen.display ∈ catalog.aggregationTypes entry ∧
        ∀ type,
          compiled.Computes (chart.entries .main).length position type ↔
            (catalog.aggregationTypes entry).head? = some type := by
  constructor
  · intro depth entry chosen placed given
    rcases aggregationTypes_of_validate resolved valid
        (List.mem_of_getElem? placed) given with
      ⟨allowed, first⟩
    refine ⟨allowed, fun type => ?_⟩
    rw [← first]
    exact groups_iff_of_compile compiles placed type
  · intro position entry chosen placed given
    rcases aggregationTypes_of_validate resolved valid
        (List.mem_of_getElem? placed) given with
      ⟨allowed, first⟩
    refine ⟨allowed, fun type => ?_⟩
    rw [← first]
    exact computes_iff_of_compile compiles placed type

/-- The grouping gives the first of its types, the figure inside the second. -/
theorem compiles_first_of_validate_choices :
    Sample.choiceFile.resolve = .ok Sample.choiceCatalog ∧
      Sample.choiceCatalog.validate Sample.choices = .ok () ∧
      ∃ compiled,
        Sample.choiceCatalog.compile .standard .none Sample.choices =
            .ok compiled ∧
          compiled.Groups 0 "terms" ∧
          compiled.Computes 1 0 "avg" ∧
          ¬compiled.Computes 1 0 "sum" := by
  have accepted :
      (Sample.choiceCatalog.validate Sample.choices).toBool = true := by
    decide +kernel
  have succeeds :
      (Sample.choiceCatalog.compile .standard .none
        Sample.choices).toBool = true := by
    decide +kernel
  have types :
      Sample.choiceCatalog.aggregationTypes Sample.firstChoice =
          ["terms", "histogram"] ∧
        Sample.choiceCatalog.aggregationTypes Sample.secondChoice =
          ["avg", "sum"] := by
    decide +kernel
  rcases Outcome.exists_ok_of_toBool accepted with ⟨_, valid⟩
  rcases Outcome.exists_ok_of_toBool succeeds with ⟨compiled, compiles⟩
  rcases compiles_first_of_validate Sample.resolve_choiceFile valid
      compiles with
    ⟨mains, values⟩
  have grouped := (mains 0 Sample.firstChoice _ rfl rfl).2
  have computed := (values 0 Sample.secondChoice _ rfl rfl).2
  rw [types.1] at grouped
  rw [types.2] at computed
  refine ⟨Sample.resolve_choiceFile, valid, compiled, compiles, ?_, ?_, ?_⟩
  · exact (grouped "terms").mpr rfl
  · exact (computed "avg").mpr rfl
  · intro sum
    exact absurd ((computed "sum").mp sum) (by decide)

/-- The figure gives `sum`, which its function allows, and is compiled to `avg`. -/
theorem compile_secondChoice :
    Sample.choiceFile.resolve = .ok Sample.choiceCatalog ∧
      Sample.choiceCatalog.validate Sample.choices = .ok () ∧
      (Sample.choices.entries .value)[0]? = some Sample.secondChoice ∧
      Keyed.get? "aggregationType" Sample.secondChoice.options =
        some (.string "sum") ∧
      ∃ compiled level,
        Sample.choiceCatalog.compile .standard .none Sample.choices =
            .ok compiled ∧
          compiled.request.aggregations.levelAt? 1 = some level ∧
          Keyed.get? "2" level = some (.metric .avg (some "duration")) ∧
          MetricKind.avg.name ≠ "sum" := by
  have accepted :
      (Sample.choiceCatalog.validate Sample.choices).toBool = true := by
    decide +kernel
  have averaged :
      (Sample.choiceCatalog.compile .standard .none
        Sample.choices).toOption.any
        (fun compiled => decide (
          compiled.request.aggregations.levelAt? 1 =
            some [("2", .metric .avg (some "duration"))])) = true := by
    decide +kernel
  rcases Outcome.exists_ok_of_toBool accepted with ⟨_, valid⟩
  rcases Outcome.exists_ok_of_any averaged with ⟨compiled, compiles, level⟩
  exact ⟨Sample.resolve_choiceFile, valid, rfl, rfl, compiled, _, compiles,
    of_decide_eq_true level, by decide, by decide⟩

end ChartQuery
