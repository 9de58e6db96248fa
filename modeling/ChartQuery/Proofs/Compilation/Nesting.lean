import ChartQuery.Proofs.Compilation.Sorting

/-!
# Stages of compilation

Every stage of compilation is described once here: what an entry resolves to,
what one grouping adds to the levels inside it, and what a whole chart compiles
to.  A failure past the handlers is the sort fault of the innermost grouping
that has one; no level ever fails for want of a free identifier.
-/

namespace ChartQuery

/-! ## Entries -/

/-- The handler that the catalog has for an entry, if it has one. -/
def Catalog.handler? (catalog : Catalog) (entry : AxisEntry) : Option Handler :=
  (catalog.function? entry.function).bind FunctionDescriptor.handler

/-- The handler that a measure stands for. -/
def Measure.handler (measure : Measure) : Handler :=
  match measure.kind with
  | some kind => .metric kind
  | none => .docCount

theorem Catalog.handler_eq_ok_iff {catalog : Catalog} {entry : AxisEntry}
    {handler : Handler} :
    catalog.handler entry = .ok handler ↔
      catalog.handler? entry = some handler := by
  unfold Catalog.handler Catalog.handler?
  cases catalog.function? entry.function with
  | none => simp
  | some function =>
      cases handled : function.handler with
      | none => simp [handled]
      | some found => simp [handled]

theorem Catalog.grouping_eq_ok_iff {catalog : Catalog} {entry : AxisEntry}
    {grouping : Grouping} :
    catalog.grouping entry = .ok grouping ↔
      grouping.entry = entry ∧
        catalog.handler? entry = some (.bucket grouping.kind) := by
  rcases grouping with ⟨owner, kind⟩
  simp only [Catalog.grouping, Outcome.bind_eq_ok_iff,
    Catalog.handler_eq_ok_iff]
  constructor
  · rintro ⟨handler, handled, made⟩
    cases handler with
    | bucket found =>
        cases made
        exact ⟨rfl, handled⟩
    | metric found => cases made
    | docCount => cases made
  · rintro ⟨rfl, handled⟩
    exact ⟨_, handled, rfl⟩

theorem Catalog.measure_eq_ok_iff {catalog : Catalog} {entry : AxisEntry}
    {measure : Measure} :
    catalog.measure entry = .ok measure ↔
      measure.entry = entry ∧
        catalog.handler? entry = some measure.handler := by
  rcases measure with ⟨owner, kind?⟩
  simp only [Catalog.measure, Outcome.bind_eq_ok_iff, Catalog.handler_eq_ok_iff]
  constructor
  · rintro ⟨handler, handled, made⟩
    cases handler with
    | bucket found => cases made
    | metric found =>
        cases made
        exact ⟨rfl, handled⟩
    | docCount =>
        cases made
        exact ⟨rfl, handled⟩
  · rintro ⟨rfl, handled⟩
    cases kind? with
    | none => exact ⟨_, handled, rfl⟩
    | some kind => exact ⟨_, handled, rfl⟩

/-- Entries resolve when each of them does, one result for one entry. -/
theorem resolveAll_eq_ok_iff {α : Type}
    {resolve : AxisEntry → Except CompileError α}
    {entries : List AxisEntry} {found : List α} :
    resolveAll resolve entries = .ok found ↔
      List.Forall₂ (fun entry item => resolve entry = .ok item)
        entries found := by
  induction entries generalizing found with
  | nil => simp [resolveAll, eq_comm]
  | cons entry rest ih =>
      simp only [resolveAll, Outcome.bind_eq_ok_iff, ih]
      constructor
      · rintro ⟨first, resolved, more, later, made⟩
        cases made
        exact .cons resolved later
      · intro pairs
        cases pairs with
        | cons resolved later => exact ⟨_, resolved, _, later, rfl⟩

/-- Entries that each resolve resolve together. -/
theorem exists_resolveAll {α : Type}
    {resolve : AxisEntry → Except CompileError α} {entries : List AxisEntry}
    (each : ∀ entry ∈ entries, ∃ item, resolve entry = .ok item) :
    ∃ found, resolveAll resolve entries = .ok found := by
  induction entries with
  | nil => exact ⟨[], rfl⟩
  | cons entry rest ih =>
      rcases each entry List.mem_cons_self with ⟨first, here⟩
      rcases ih (fun other member =>
          each other (List.mem_cons_of_mem _ member)) with
        ⟨more, later⟩
      exact ⟨first :: more, resolveAll_eq_ok_iff.mpr
        (.cons here (resolveAll_eq_ok_iff.mp later))⟩

/-- What an entry resolves to stands at the place of the entry. -/
theorem getElem?_of_resolveAll {α : Type}
    {resolve : AxisEntry → Except CompileError α}
    {entries : List AxisEntry} {found : List α} {position : Nat}
    {entry : AxisEntry} {item : α}
    (resolved : resolveAll resolve entries = .ok found)
    (there : entries[position]? = some entry)
    (made : resolve entry = .ok item) :
    found[position]? = some item := by
  rcases Outcome.exists_getElem?_of_left (resolveAll_eq_ok_iff.mp resolved)
      there with
    ⟨other, target, same⟩
  rw [made] at same
  cases same
  exact target

/-! ## One grouping -/

/-- A grouping has a sort clause by `Sorting` or, of another kind, none. -/
theorem Grouping.sorted_cases
    {grouping : Grouping} {measures : List Measure} {depth : Nat}
    {firstMetric : Option Nat} {below after : Aggregations}
    {order : Keyed String SortDirection}
    (sorted : grouping.sorted measures depth firstMetric below =
      .ok (order, after)) :
    (grouping.kind = .terms ∧
        Sorting measures depth grouping.entry below order after) ∨
      (grouping.kind ≠ .terms ∧ order = [] ∧ after = below) := by
  unfold Grouping.sorted at sorted
  cases kind : grouping.kind with
  | terms =>
      rw [kind] at sorted
      exact Or.inl ⟨rfl, sorting_of_sortClause sorted⟩
  | dateHistogram =>
      rw [kind] at sorted
      cases sorted
      exact Or.inr ⟨nofun, rfl, rfl⟩
  | histogram =>
      rw [kind] at sorted
      cases sorted
      exact Or.inr ⟨nofun, rfl, rfl⟩

/-- Nothing more, or one metric under a number that is not there yet. -/
def Auxiliary (asked extra : Aggregations) : Prop :=
  extra = [] ∨
    ∃ number kind field, Nat.repr number ∉ Keyed.keys asked ∧
      extra = [(number.repr, .metric kind field)]

/-- Sorting leaves all that is below a grouping as it is, and may add a metric. -/
theorem Grouping.auxiliary_of_sorted
    {grouping : Grouping} {measures : List Measure} {depth : Nat}
    {firstMetric : Option Nat} {below after : Aggregations}
    {order : Keyed String SortDirection}
    (sorted : grouping.sorted measures depth firstMetric below =
      .ok (order, after)) :
    ∃ extra, after = below ++ extra ∧ Auxiliary below extra := by
  have unchanged : ∃ extra, below = below ++ extra ∧ Auxiliary below extra :=
    ⟨[], (List.append_nil below).symm, Or.inl rfl⟩
  rcases Grouping.sorted_cases sorted with ⟨_, sorting⟩ | ⟨_, _, rfl⟩
  · cases sorting with
    | byAdded _ _ named free =>
        subst named
        exact ⟨_, rfl,
          Or.inr ⟨_, _, _, (Keyed.get?_eq_none_iff _ _).mp free, rfl⟩⟩
    | _ => exact unchanged
  · exact unchanged

/-- Sorting drops none of the aggregations below a grouping. -/
theorem Grouping.mem_of_sorted
    {grouping : Grouping} {measures : List Measure} {depth : Nat}
    {firstMetric : Option Nat} {below after : Aggregations}
    {order : Keyed String SortDirection}
    (sorted : grouping.sorted measures depth firstMetric below =
      .ok (order, after))
    {entry : String × Aggregation} (member : entry ∈ below) :
    entry ∈ after := by
  rcases Grouping.auxiliary_of_sorted sorted with ⟨extra, rfl, _⟩
  exact List.mem_append_left _ member

theorem Grouping.sorted_eq_error_iff
    {grouping : Grouping} {measures : List Measure} {depth : Nat}
    {firstMetric : Option Nat} {below : Aggregations} {failure : CompileError}
    (hosts : Hosts measures depth firstMetric below) :
    grouping.sorted measures depth firstMetric below = .error failure ↔
      grouping.sortFault? measures = some failure := by
  rcases grouping with ⟨entry, kind⟩
  cases kind with
  | terms => exact sortClause_eq_error_iff hosts
  | dateHistogram => simp [Grouping.sorted, Grouping.sortFault?]
  | histogram => simp [Grouping.sorted, Grouping.sortFault?]

@[simp]
theorem Grouping.isBucket_operator (grouping : Grouping)
    (settings : CompilerSettings) (order : Keyed String SortDirection) :
    (grouping.operator settings order).isBucket = true := by
  unfold Grouping.operator
  cases grouping.kind <;> rfl

@[simp]
theorem Grouping.name_operator (grouping : Grouping)
    (settings : CompilerSettings) (order : Keyed String SortDirection) :
    (grouping.operator settings order).name = grouping.kind.name := by
  unfold Grouping.operator
  cases grouping.kind <;> rfl

/-! ## Nested groupings -/

section Nesting

variable {settings : CompilerSettings} {measures : List Measure}
  {firstMetric depth : Nat} {grouping : Grouping} {rest groupings : List Grouping}
  {aggregations : Aggregations} {slots : Slots}

/-- What one grouping makes of the levels inside it. -/
theorem nest_cons_eq_ok_iff :
    nest settings measures firstMetric depth (grouping :: rest) =
        .ok (aggregations, slots) ↔
      ∃ below inner order after,
        nest settings measures firstMetric (depth + 1) rest =
            .ok (below, inner) ∧
          grouping.sorted measures depth
              (if rest.isEmpty then some firstMetric else none) below =
            .ok (order, after) ∧
          aggregations =
            [(depth.repr, .bucket (grouping.operator settings order) after)] ∧
          slots = [(depth.repr, .main depth inner)] := by
  simp only [nest, Outcome.bind_eq_ok_iff]
  constructor
  · rintro ⟨⟨below, inner⟩, nested, ⟨order, after⟩, sorted, made⟩
    cases made
    exact ⟨below, inner, order, after, nested, sorted, rfl, rfl⟩
  · rintro ⟨below, inner, order, after, nested, sorted, rfl, rfl⟩
    exact ⟨(below, inner), nested, (order, after), sorted, rfl⟩

/-- Whatever is nested one level deeper hosts every metric. -/
theorem hosts_nest
    (nested : nest settings measures firstMetric (depth + 1) rest =
      .ok (aggregations, slots)) :
    Hosts measures depth (if rest.isEmpty then some firstMetric else none)
      aggregations := by
  cases rest with
  | nil =>
      cases nested
      exact hosts_metrics measures depth firstMetric
  | cons next deeper =>
      rcases nest_cons_eq_ok_iff.mp nested with ⟨_, _, _, _, _, _, rfl, _⟩
      exact hosts_grouping measures depth _

/-- The sort fault of the innermost grouping that has one. -/
def innermostFault? (measures : List Measure) :
    List Grouping → Option CompileError
  | [] => none
  | grouping :: rest =>
      (innermostFault? measures rest).or (grouping.sortFault? measures)

theorem mem_of_innermostFault? {failure : CompileError}
    (fault : innermostFault? measures groupings = some failure) :
    ∃ grouping ∈ groupings,
      grouping.sortFault? measures = some failure := by
  induction groupings with
  | nil => cases fault
  | cons grouping rest ih =>
      rcases Option.or_eq_some_iff.mp fault with inner | ⟨_, here⟩
      · rcases ih inner with ⟨found, member, faulty⟩
        exact ⟨found, List.mem_cons_of_mem _ member, faulty⟩
      · exact ⟨grouping, List.mem_cons_self, here⟩

theorem innermostFault?_ne_none {failure : CompileError}
    (member : grouping ∈ groupings)
    (faulty : grouping.sortFault? measures = some failure) :
    innermostFault? measures groupings ≠ none := by
  induction groupings with
  | nil => cases member
  | cons first rest ih =>
      intro sound
      rcases Option.or_eq_none_iff.mp sound with ⟨inner, here⟩
      rcases List.mem_cons.mp member with rfl | later
      · rw [here] at faulty
        cases faulty
      · exact ih later inner

/-- Nesting fails exactly with the innermost sort fault. -/
theorem nest_eq_error_iff {failure : CompileError} :
    nest settings measures firstMetric depth groupings = .error failure ↔
      innermostFault? measures groupings = some failure := by
  -- Levels are built from the inside out, so an inner fault hides an outer one.
  induction groupings generalizing depth failure with
  | nil => simp [nest, innermostFault?]
  | cons grouping rest ih =>
      rw [nest, Outcome.bind_eq_error_iff, ih, innermostFault?,
        Option.or_eq_some_iff]
      constructor
      · rintro (inner | ⟨⟨below, inner⟩, nested, outer⟩)
        · exact Or.inl inner
        · right
          constructor
          · rw [Option.eq_none_iff_forall_ne_some]
            intro other deeper
            have failed : nest settings measures firstMetric (depth + 1) rest =
                .error other := ih.mpr deeper
            rw [failed] at nested
            cases nested
          · rcases Outcome.bind_eq_error_iff.mp outer with
              fault | ⟨_, _, impossible⟩
            · exact (Grouping.sorted_eq_error_iff (hosts_nest nested)).mp fault
            · cases impossible
      · rintro (inner | ⟨sound, here⟩)
        · exact Or.inl inner
        · right
          have deeper : ∃ result,
              nest settings measures firstMetric (depth + 1) rest =
                .ok result := by
            apply Outcome.exists_ok_of_no_error
            intro other failed
            rw [ih.mp failed] at sound
            cases sound
          rcases deeper with ⟨⟨below, inner⟩, nested⟩
          refine ⟨(below, inner), nested, ?_⟩
          exact Outcome.bind_eq_error_iff.mpr (Or.inl
            ((Grouping.sorted_eq_error_iff (hosts_nest nested)).mpr here))

end Nesting

/-! ## Charts -/

section Charts

variable {catalog : Catalog} {settings : CompilerSettings}
  {options : CompileOptions} {chart : Chart}

/-- What a chart compiles to. -/
theorem Catalog.compile_eq_ok_iff {compiled : CompiledChart} :
    catalog.compile settings options chart = .ok compiled ↔
      ∃ groupings measures aggregations slots,
        resolveAll catalog.grouping (chart.entries .main) = .ok groupings ∧
          resolveAll catalog.measure (chart.entries .value) = .ok measures ∧
          nest (settings.override options) measures (groupings.length + 1) 0
              groupings = .ok (aggregations, slots) ∧
          compiled =
            ⟨⟨aggregations, 0, (settings.override options).defaultQuery⟩,
              slots⟩ := by
  simp only [Catalog.compile, Outcome.bind_eq_ok_iff]
  constructor
  · rintro ⟨groupings, mains, measures, values, ⟨aggregations, slots⟩, nested,
      made⟩
    cases made
    exact ⟨groupings, measures, aggregations, slots, mains, values, nested, rfl⟩
  · rintro ⟨groupings, measures, aggregations, slots, mains, values, nested,
      rfl⟩
    exact ⟨groupings, mains, measures, values, _, nested, rfl⟩

/-- Once all entries are resolved, only sort faults are left. -/
theorem Catalog.compile_eq_error_iff
    {groupings : List Grouping} {measures : List Measure}
    {failure : CompileError}
    (mains : resolveAll catalog.grouping (chart.entries .main) = .ok groupings)
    (values : resolveAll catalog.measure (chart.entries .value) =
      .ok measures) :
    catalog.compile settings options chart = .error failure ↔
      innermostFault? measures groupings = some failure := by
  have faults :
      nest (settings.override options) measures (groupings.length + 1) 0
          groupings = .error failure ↔
        innermostFault? measures groupings = some failure := nest_eq_error_iff
  have unfolded :
      catalog.compile settings options chart =
        (nest (settings.override options) measures (groupings.length + 1) 0
            groupings >>= fun nested =>
          .ok ⟨⟨nested.1, 0, (settings.override options).defaultQuery⟩,
            nested.2⟩) := by
    rw [Catalog.compile, mains, values]
    rfl
  rw [unfolded, ← faults]
  constructor
  · intro failed
    rcases Outcome.bind_eq_error_iff.mp failed with nested | ⟨_, _, impossible⟩
    · exact nested
    · cases impossible
  · intro nested
    exact Outcome.bind_eq_error_iff.mpr (Or.inl nested)

end Charts

end ChartQuery
