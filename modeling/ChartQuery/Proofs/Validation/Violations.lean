import ChartQuery.Proofs.Validation.Entries

/-!
# Violations of the chart grammar

`Catalog.violations` lists every rule that a chart breaks: the data view, the
module type, the presence of the axes, their lengths, and then the entries, main
axis first.  Validation stops at the first violation of this list, so the main
statement compares the two.

Some rules make sense only when others hold.  Where a function, an index or a
module type is not known, nothing is said about what depends on it; a violation
that comes before tells why.
-/

namespace ChartQuery

open Outcome (faultUnless Reports)

/-! ## Rules -/

/-- The data view names a registered index that has a mapping file. -/
def Catalog.viewViolations (catalog : Catalog) (name : String) :
    List ValidationError :=
  let view := catalog.dataView? name
  let mapped := (view.bind DataView.mappedIndex).getD ""
  let index := catalog.index? mapped
  faultUnless (view ≠ none) (.dataViewNotFound name) ++
    faultUnless (mapped ≠ "") (.mappedIndexMissing name) ++
    faultUnless (index ≠ none) (.indexNotRegistered mapped name) ++
    faultUnless ((index.bind IndexMapping.mappingFile).getD "" ≠ "")
      (.mappingFileMissing mapped)

/-- The index of a data view. -/
def Catalog.viewIndex? (catalog : Catalog) (name : String) :
    Option IndexMapping :=
  catalog.index? (((catalog.dataView? name).bind DataView.mappedIndex).getD "")

/-- The numbers of entries that a frequency asks for. -/
def Frequency.Asks : Frequency → Nat → Prop
  | .single, count => count = 1
  | .multiple, count => 1 ≤ count
  | .notApplicable, count => count = 0

instance : (frequency : Frequency) → (count : Nat) →
    Decidable (frequency.Asks count)
  | .single, _ => inferInstanceAs (Decidable (_ = _))
  | .multiple, _ => inferInstanceAs (Decidable (_ ≤ _))
  | .notApplicable, _ => inferInstanceAs (Decidable (_ = _))

/-- An axis is empty only where the module type does not use it. -/
def presenceViolations (axis : Axis) (frequency : Frequency)
    (entries : List AxisEntry) : List ValidationError :=
  faultUnless (entries ≠ [] ∨ frequency = .notApplicable) (.missingAxis axis)

/-- An axis has as many entries as its frequency asks for. -/
def lengthViolations (axis : Axis) (frequency : Frequency)
    (entries : List AxisEntry) : List ValidationError :=
  faultUnless (frequency.Asks entries.length)
    (.axisLength axis frequency entries.length)

/-- A required option has a value, and one that is allowed. -/
def FunctionDescriptor.requiredViolations (function : FunctionDescriptor)
    (entry : AxisEntry) (declared : String × Option (List String)) :
    List ValidationError :=
  let value := (function.value? entry declared.1).getD .null
  faultUnless (value ≠ .null ∧ value ≠ .string "")
      (.missingRequiredOption function.id declared.1) ++
    match declared.2 with
    | none => []
    | some allowed =>
        faultUnless (value.display ∈ allowed)
          (.invalidOptionValue function.id declared.1 value.display allowed)

/-- A well-known option that is written has its form. -/
def AxisEntry.formatViolations (entry : AxisEntry)
    (checked : String × OptionFormat) : List FormatError :=
  match Keyed.get? checked.1 entry.options with
  | none => []
  | some value =>
      faultUnless (checked.2.accepts value = true)
        ⟨checked.1, value.display, checked.2⟩

/-- A field of a known type has one that the function takes. -/
def FunctionDescriptor.typeViolations (function : FunctionDescriptor)
    (index : IndexMapping) (entry : AxisEntry) : List ValidationError :=
  match entry.field with
  | none => []
  | some field =>
      match Keyed.get? field index.fields with
      | none => []
      | some fieldType =>
          faultUnless
            ("all" ∈ function.validDataTypes ∨
              fieldType ∈ function.validDataTypes)
            (.invalidFieldType function.id field fieldType)

/-- All violations of an entry whose function is known. -/
def FunctionDescriptor.violations (function : FunctionDescriptor)
    (catalog : Catalog) (index : IndexMapping) (axis : Axis)
    (entry : AxisEntry) : List ValidationError :=
  faultUnless (function.axis = axis) (.functionAxisMismatch function.id axis) ++
    (faultUnless (function.handler ≠ none)
        (.functionNotConfigured function.id) ++
      ((entry.givenKeys.filter (fun key => !catalog.knowsOption key)).map
          .unknownOption ++
        (function.required.flatMap (function.requiredViolations entry) ++
          ((entry.givenKeys.filter (fun key => !function.declares key)).map
              (.unmappedOption function.id) ++
            ((OptionFormat.checked.flatMap entry.formatViolations).map
                .invalidFormat ++
              function.typeViolations index entry)))))

/-- All violations of an entry. -/
def Catalog.entryViolations (catalog : Catalog) (index : IndexMapping)
    (axis : Axis) (entry : AxisEntry) : List ValidationError :=
  match catalog.function? entry.function with
  | none => [.invalidFunction entry.function]
  | some function => function.violations catalog index axis entry

/-- All violations of a chart. -/
def Catalog.violations (catalog : Catalog) (chart : Chart) :
    List ValidationError :=
  catalog.viewViolations chart.dataView ++
    match catalog.moduleType? chart.moduleType with
    | none => [.invalidModuleType chart.moduleType]
    | some module =>
        (presenceViolations .main module.main (chart.entries .main) ++
          presenceViolations .value module.value (chart.entries .value)) ++
        ((lengthViolations .main module.main (chart.entries .main) ++
          lengthViolations .value module.value (chart.entries .value)) ++
        match catalog.viewIndex? chart.dataView with
        | none => []
        | some index =>
            (chart.entries .main).flatMap
                (catalog.entryViolations index .main) ++
              (chart.entries .value).flatMap
                (catalog.entryViolations index .value))

/-! ## Checks of one entry -/

theorem isLeftOut_eq_true_iff {value? : Option Json} :
    isLeftOut value? = true ↔
      ¬(value?.getD .null ≠ .null ∧ value?.getD .null ≠ .string "") := by
  cases value? with
  | none => simp [isLeftOut]
  | some value => cases value <;> simp [isLeftOut, String.isEmpty_iff]

theorem FunctionDescriptor.acceptsType_iff {function : FunctionDescriptor}
    {fieldType : String} :
    function.acceptsType fieldType = true ↔
      "all" ∈ function.validDataTypes ∨ fieldType ∈ function.validDataTypes := by
  simp only [FunctionDescriptor.acceptsType, List.any_eq_true,
    Bool.or_eq_true, decide_eq_true_eq]
  constructor
  · rintro ⟨valid, member, rfl | rfl⟩
    · exact Or.inl member
    · exact Or.inr member
  · rintro (all | same)
    · exact ⟨"all", all, Or.inl rfl⟩
    · exact ⟨fieldType, same, Or.inr rfl⟩

section Entries

variable {catalog : Catalog} {index : IndexMapping} {axis : Axis}
  {function : FunctionDescriptor} {entry : AxisEntry}

theorem reports_checkRequired (function : FunctionDescriptor)
    (entry : AxisEntry) (declared : String × Option (List String)) :
    Reports (checkRequired function.id (function.completed entry) declared)
      (function.requiredViolations entry declared) := by
  rcases declared with ⟨key, allowed?⟩
  unfold checkRequired FunctionDescriptor.requiredViolations
  simp only [get?_completed]
  by_cases there : (function.value? entry key).getD .null ≠ .null ∧
      (function.value? entry key).getD .null ≠ .string ""
  · have given : isLeftOut (function.value? entry key) = false := by
      rw [Bool.eq_false_iff, ne_eq, isLeftOut_eq_true_iff, not_not]
      exact there
    rw [given, faultUnless, if_pos there, List.nil_append]
    cases found : function.value? entry key with
    | none => simp [found] at there
    | some value =>
        cases allowed? with
        | none => exact Outcome.reports_ok ()
        | some allowed => exact Outcome.reports_if _ _ ()
  · rw [isLeftOut_eq_true_iff.mpr there, faultUnless, if_neg there]
    exact Outcome.reports_error _ _

theorem reports_checkFormats (function : FunctionDescriptor)
    (entry : AxisEntry) :
    Reports (checkFormats (function.completed entry))
      (OptionFormat.checked.flatMap entry.formatViolations) := by
  refine Outcome.reports_forM fun checked member => ?_
  unfold checkFormat AxisEntry.formatViolations
  rw [get?_completed, value?_of_checked function entry member]
  cases Keyed.get? checked.1 entry.options with
  | none => exact Outcome.reports_ok ()
  | some value => exact Outcome.reports_if _ _ ()

theorem reports_checkFieldType (function : FunctionDescriptor)
    (index : IndexMapping) (entry : AxisEntry) :
    Reports (checkFieldType function index entry.field)
      (function.typeViolations index entry) := by
  unfold FunctionDescriptor.typeViolations checkFieldType
  cases entry.field with
  | none => exact Outcome.reports_ok ()
  | some field =>
      dsimp only
      cases Keyed.get? field index.fields with
      | none => exact Outcome.reports_ok ()
      | some fieldType =>
          simp only [FunctionDescriptor.acceptsType_iff]
          exact Outcome.reports_if _ _ ()

theorem reports_rejectIf {fault : Option String} {keys : List String}
    (error : String → ValidationError) (first : fault = keys.head?) :
    Reports (rejectIf fault error) (keys.map error) := by
  subst first
  cases keys with
  | nil => exact Outcome.reports_ok ()
  | cons key rest => exact Outcome.reports_error (error key) (rest.map error)

theorem Catalog.reports_checkOptions :
    Reports (catalog.checkOptions index function entry)
      ((entry.givenKeys.filter (fun key => !catalog.knowsOption key)).map
          .unknownOption ++
        (function.required.flatMap (function.requiredViolations entry) ++
          ((entry.givenKeys.filter (fun key => !function.declares key)).map
              (.unmappedOption function.id) ++
            ((OptionFormat.checked.flatMap entry.formatViolations).map
                .invalidFormat ++
              function.typeViolations index entry)))) := by
  unfold Catalog.checkOptions
  refine (reports_rejectIf _ (firstKey?_supplied _ entry)).bind fun _ _ => ?_
  refine (Outcome.reports_forM fun declared _ =>
    reports_checkRequired function entry declared).bind fun _ _ => ?_
  refine (reports_rejectIf _ (firstKey?_completed function entry)).bind
    fun _ _ => ?_
  exact ((reports_checkFormats function entry).mapError _).bind
    fun _ _ => reports_checkFieldType function index entry

theorem Catalog.reports_checkEntry (catalog : Catalog) (index : IndexMapping)
    (axis : Axis) (entry : AxisEntry) :
    Reports (catalog.checkEntry index axis entry)
      (catalog.entryViolations index axis entry) := by
  unfold Catalog.checkEntry Catalog.entryViolations
  cases catalog.function? entry.function with
  | none => exact Outcome.reports_error _ []
  | some function =>
      simp only [ne_eq, ite_not, FunctionDescriptor.violations]
      refine Outcome.Reports.guarded fun _ => ?_
      rw [← ite_not]
      exact Outcome.Reports.guarded fun _ => Catalog.reports_checkOptions

end Entries

/-! ## Checks of a chart -/

section Charts

variable {catalog : Catalog} {chart : Chart}

/-- An absent name of an index and an empty one are the same violation. -/
theorem filter_ne_none_iff (mapped : Option String) :
    mapped.filter (fun name => name ≠ "") ≠ none ↔ mapped.getD "" ≠ "" := by
  cases mapped with
  | none => simp
  | some name => simp [Option.filter_eq_none_iff]

theorem Catalog.reports_resolveDataView (catalog : Catalog) (name : String) :
    Reports (catalog.resolveDataView name) (catalog.viewViolations name) := by
  unfold Catalog.resolveDataView Catalog.viewViolations
  simp only [List.append_assoc]
  refine Outcome.Reports.lookedUp (fun absent => by rw [absent])
    fun view viewed => ?_
  simp only [viewed, Option.bind_some, ← filter_ne_none_iff view.mappedIndex]
  refine Outcome.Reports.lookedUp (fun absent => by rw [absent])
    fun mapped given => ?_
  have named : view.mappedIndex = some mapped :=
    (Option.filter_eq_some_iff.mp given).1
  simp only [given]
  simp only [named, Option.getD_some]
  refine Outcome.Reports.lookedUp (fun absent => by rw [absent])
    fun index registered => ?_
  simp only [registered, Option.bind_some, String.isEmpty_iff]
  rw [← ite_not]
  exact Outcome.reports_if _ _ index

theorem Catalog.viewIndex?_of_resolveDataView {name : String}
    {index : IndexMapping}
    (resolved : catalog.resolveDataView name = .ok index) :
    catalog.viewIndex? name = some index := by
  unfold Catalog.resolveDataView at resolved
  unfold Catalog.viewIndex?
  split at resolved
  · cases resolved
  · rename_i view viewed
    split at resolved
    · cases resolved
    · rename_i mapped given
      split at resolved
      · cases resolved
      · rename_i found registered
        split at resolved
        · cases resolved
        · cases resolved
          have named := (Option.filter_eq_some_iff.mp given).1
          simp [viewed, named, registered]

theorem Frequency.accepts_iff {frequency : Frequency} {count : Nat} :
    frequency.accepts count = true ↔ frequency.Asks count := by
  cases frequency <;> simp [accepts, Asks]

theorem reports_presence (chart : Chart) (module : ModuleSpec) (axis : Axis) :
    Reports (checkPresence chart module axis)
      (presenceViolations axis (module.frequency axis)
        (chart.entries axis)) := by
  have present : ((chart.entries axis).isEmpty = true ∧
        module.frequency axis ≠ .notApplicable) ↔
      ¬(chart.entries axis ≠ [] ∨ module.frequency axis = .notApplicable) := by
    rw [not_or, not_not, List.isEmpty_iff]
  unfold checkPresence presenceViolations
  simp only [present, ite_not]
  exact Outcome.reports_if _ _ ()

theorem reports_length (chart : Chart) (module : ModuleSpec) (axis : Axis) :
    Reports (checkLength chart module axis)
      (lengthViolations axis (module.frequency axis) (chart.entries axis)) := by
  unfold checkLength lengthViolations
  simp only [Frequency.accepts_iff]
  exact Outcome.reports_if _ _ ()

/-- A check of both axes reports what is wrong with the main axis first. -/
theorem reports_both {check : Axis → Except ValidationError Unit}
    {violations : Axis → List ValidationError}
    (each : ∀ axis, Reports (check axis) (violations axis)) :
    Reports (Axis.both.forM check)
      (violations .main ++ violations .value) := by
  have listed : Axis.both.flatMap violations =
      violations .main ++ violations .value := by simp [Axis.both]
  rw [← listed]
  exact Outcome.reports_forM fun axis _ => each axis

theorem Catalog.reports_validate (catalog : Catalog) (chart : Chart) :
    Reports (catalog.validate chart) (catalog.violations chart) := by
  unfold Catalog.validate Catalog.violations
  refine (catalog.reports_resolveDataView chart.dataView).bind
    fun index resolved => ?_
  cases catalog.moduleType? chart.moduleType with
  | none => exact Outcome.reports_error _ []
  | some module =>
      refine (reports_both (reports_presence chart module.toModuleSpec)).bind
        fun _ _ => ?_
      refine (reports_both (reports_length chart module.toModuleSpec)).bind
        fun _ _ => ?_
      rw [Catalog.viewIndex?_of_resolveDataView resolved]
      exact reports_both fun axis => Outcome.reports_forM
        fun entry _ => catalog.reports_checkEntry index axis entry

end Charts

end ChartQuery
