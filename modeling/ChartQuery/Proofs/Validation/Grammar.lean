import ChartQuery.Proofs.Sample
import ChartQuery.Proofs.Validation.Literals
import ChartQuery.Proofs.Validation.Violations

/-!
# The chart grammar

`Catalog.Grammatical` says what a chart has to be like, without an order of
checks: its data view stands for an index, its module type accepts the lengths
of both axes, and every entry is one that its function allows.  The main
statement is that validation accepts these charts and no others, and that it
reports the first violation of any other chart.
-/

namespace ChartQuery

open Outcome (faultUnless_eq_nil_iff)

/-- The data view has a registered index with a mapping file. -/
def Catalog.StandsFor (catalog : Catalog) (name : String)
    (index : IndexMapping) : Prop :=
  ∃ view mapped file, Keyed.get? name catalog.dataViews = some view ∧
    view.mappedIndex = some mapped ∧ mapped ≠ "" ∧
    Keyed.get? mapped catalog.indices = some index ∧
    index.mappingFile = some file ∧ file ≠ ""

/-- A string is its own text; any other value has its JSON text. -/
inductive Json.HasText : Json → String → Prop where
  | string (text : String) : HasText (.string text) text
  | other {value : Json} (noString : ∀ text, value ≠ .string text) :
      HasText value value.compact

/-- What a function asks of an entry that applies it. -/
structure FunctionDescriptor.Allows (function : FunctionDescriptor)
    (catalog : Catalog) (index : IndexMapping) (axis : Axis)
    (entry : AxisEntry) : Prop where
  axis : function.axis = axis
  handled : ∃ handler, function.handler = some handler
  known : ∀ key ∈ entry.givenKeys, key ∈ catalog.optionKeys
  declared : ∀ key ∈ entry.givenKeys,
    key ∈ Keyed.keys function.required ∨ key ∈ Keyed.keys function.optional
  required : ∀ key allowed, (key, allowed) ∈ function.required →
    ∃ value, function.value? entry key = some value ∧ value ≠ .null ∧
      value ≠ .string "" ∧
      ∀ texts, allowed = some texts → ∃ text ∈ texts, value.HasText text
  formats : WellFormed (OptionFormat.Admits Text.isDecimalDigit) entry.options
  fieldType : ∀ field, entry.field = some field →
    ∀ fieldType, Keyed.get? field index.fields = some fieldType →
      "all" ∈ function.validDataTypes ∨ fieldType ∈ function.validDataTypes

/-- The function of an entry is known and allows the entry. -/
def Catalog.AllowsEntry (catalog : Catalog) (index : IndexMapping)
    (axis : Axis) (entry : AxisEntry) : Prop :=
  ∃ function, Keyed.get? entry.function catalog.functions = some function ∧
    function.Allows catalog index axis entry

/-- A chart that follows the grammar of the catalog. -/
def Catalog.Grammatical (catalog : Catalog) (chart : Chart) : Prop :=
  ∃ index module, catalog.StandsFor chart.dataView index ∧
    Keyed.get? chart.moduleType catalog.moduleTypes = some module ∧
    module.main.Asks (chart.entries .main).length ∧
    module.value.Asks (chart.entries .value).length ∧
    ∀ axis, ∀ entry ∈ chart.entries axis, catalog.AllowsEntry index axis entry

theorem Json.hasText_iff {value : Json} {text : String} :
    value.HasText text ↔ text = value.display := by
  constructor
  · intro has
    cases has with
    | string text => rfl
    | other noString =>
        cases value with
        | string text => exact (noString text rfl).elim
        | _ => rfl
  · rintro rfl
    cases value with
    | string text => exact .string text
    | _ => exact .other nofun

theorem Json.exists_hasText_iff {value : Json} {texts : List String} :
    (∃ text ∈ texts, value.HasText text) ↔ value.display ∈ texts := by
  simp [Json.hasText_iff]

/-! ## Absence of violations -/

section Entries

variable {catalog : Catalog} {index : IndexMapping} {axis : Axis}
  {function : FunctionDescriptor} {entry : AxisEntry}

theorem requiredViolations_eq_nil_iff {key : String}
    {allowed : Option (List String)} :
    function.requiredViolations entry (key, allowed) = [] ↔
      ∃ value, function.value? entry key = some value ∧ value ≠ .null ∧
        value ≠ .string "" ∧
        ∀ texts, allowed = some texts → ∃ text ∈ texts, value.HasText text := by
  unfold FunctionDescriptor.requiredViolations
  simp only [Json.exists_hasText_iff]
  rw [List.append_eq_nil_iff, faultUnless_eq_nil_iff]
  cases function.value? entry key with
  | none => simp
  | some value =>
      cases allowed with
      | none => simp
      | some texts => simp [faultUnless_eq_nil_iff, and_assoc]

theorem formatViolations_eq_nil_iff {key : String} {format : OptionFormat} :
    entry.formatViolations (key, format) = [] ↔
      ∀ value, Keyed.get? key entry.options = some value →
        format.Admits Text.isDecimalDigit value := by
  unfold AxisEntry.formatViolations
  cases Keyed.get? key entry.options with
  | none => simp
  | some value =>
      simp [faultUnless_eq_nil_iff, OptionFormat.accepts_iff_admits]

theorem typeViolations_eq_nil_iff :
    function.typeViolations index entry = [] ↔
      ∀ field, entry.field = some field →
        ∀ fieldType, Keyed.get? field index.fields = some fieldType →
          "all" ∈ function.validDataTypes ∨
            fieldType ∈ function.validDataTypes := by
  unfold FunctionDescriptor.typeViolations
  cases entry.field with
  | none => simp
  | some field =>
      simp only [Option.some.injEq, forall_eq']
      cases Keyed.get? field index.fields with
      | none => simp
      | some fieldType => simp [faultUnless_eq_nil_iff]

theorem FunctionDescriptor.declares_iff {key : String} :
    function.declares key = true ↔
      key ∈ Keyed.keys function.required ∨
        key ∈ Keyed.keys function.optional := by
  have has : ∀ schema : OptionSchema,
      Keyed.has key schema = true ↔ key ∈ Keyed.keys schema := by
    intro schema
    rw [Keyed.has_eq_isSome, Option.isSome_iff_ne_none, ne_eq,
      Keyed.get?_eq_none_iff, not_not]
  rw [FunctionDescriptor.declares, Bool.or_eq_true, has, has]

theorem FunctionDescriptor.violations_eq_nil_iff :
    function.violations catalog index axis entry = [] ↔
      function.Allows catalog index axis entry := by
  simp only [FunctionDescriptor.violations, List.append_eq_nil_iff,
    faultUnless_eq_nil_iff, List.map_eq_nil_iff, List.filter_eq_nil_iff,
    List.flatMap_eq_nil_iff, Bool.not_eq_true', Bool.not_eq_false,
    Catalog.knowsOption, decide_eq_true_eq, FunctionDescriptor.declares_iff,
    Option.ne_none_iff_exists', Prod.forall, requiredViolations_eq_nil_iff,
    formatViolations_eq_nil_iff, typeViolations_eq_nil_iff]
  constructor
  · rintro ⟨placed, handled, known, required, declared, formats, fieldType⟩
    exact ⟨placed, handled, known, declared, required,
      fun checked => formats checked.1 checked.2, fieldType⟩
  · rintro ⟨placed, handled, known, declared, required, formats, fieldType⟩
    exact ⟨placed, handled, known, required, declared,
      fun key format => formats (key, format), fieldType⟩

theorem Catalog.entryViolations_eq_nil_iff :
    catalog.entryViolations index axis entry = [] ↔
      catalog.AllowsEntry index axis entry := by
  unfold Catalog.entryViolations Catalog.AllowsEntry Catalog.function?
  cases Keyed.get? entry.function catalog.functions with
  | none => simp
  | some function => simp [FunctionDescriptor.violations_eq_nil_iff]

end Entries

section Charts

variable {catalog : Catalog} {chart : Chart}

theorem Catalog.standsFor_iff {name : String} {index : IndexMapping} :
    catalog.StandsFor name index ↔
      catalog.viewViolations name = [] ∧
        catalog.viewIndex? name = some index := by
  simp only [Catalog.viewViolations, List.append_eq_nil_iff,
    faultUnless_eq_nil_iff, Catalog.viewIndex?, Catalog.StandsFor]
  unfold Catalog.dataView? Catalog.index?
  constructor
  · rintro ⟨view, mapped, file, viewed, given, named, registered, filed, filled⟩
    simp [viewed, given, named, registered, filed, filled]
  · rintro ⟨⟨⟨⟨viewed, named⟩, _⟩, filled⟩, registered⟩
    rcases Option.ne_none_iff_exists'.mp viewed with ⟨view, found⟩
    rw [found, Option.bind_some] at named registered filled
    cases given : view.mappedIndex with
    | none => simp [given] at named
    | some mapped =>
        rw [given, Option.getD_some] at named registered filled
        rw [registered, Option.bind_some] at filled
        cases filed : index.mappingFile with
        | none => simp [filed] at filled
        | some file =>
            exact ⟨view, mapped, file, found, given, named, registered, rfl,
              by simpa [filed] using filled⟩

theorem Catalog.exists_standsFor {name : String}
    (sound : catalog.viewViolations name = []) :
    ∃ index, catalog.StandsFor name index := by
  have registered : catalog.viewIndex? name ≠ none := by
    simp only [Catalog.viewViolations, List.append_eq_nil_iff,
      faultUnless_eq_nil_iff] at sound
    exact sound.1.2
  rcases Option.ne_none_iff_exists'.mp registered with ⟨index, found⟩
  exact ⟨index, Catalog.standsFor_iff.mpr ⟨sound, found⟩⟩

/-- An axis of the right length is empty only if it may be. -/
theorem asks_iff {axis : Axis} {frequency : Frequency}
    {entries : List AxisEntry} :
    presenceViolations axis frequency entries = [] ∧
        lengthViolations axis frequency entries = [] ↔
      frequency.Asks entries.length := by
  unfold presenceViolations lengthViolations
  rw [faultUnless_eq_nil_iff, faultUnless_eq_nil_iff, and_iff_right_iff_imp]
  intro asked
  cases frequency with
  | notApplicable => exact Or.inr rfl
  | single =>
      left
      rintro rfl
      cases asked
  | multiple =>
      left
      rintro rfl
      cases asked

theorem Catalog.violations_eq_nil_iff :
    catalog.violations chart = [] ↔ catalog.Grammatical chart := by
  unfold Catalog.violations Catalog.moduleType?
  rw [List.append_eq_nil_iff]
  cases typed : Keyed.get? chart.moduleType catalog.moduleTypes with
  | none => simp [Catalog.Grammatical, typed]
  | some module =>
      simp only [List.append_eq_nil_iff]
      constructor
      · rintro ⟨viewed, present, long, entries⟩
        rcases Catalog.exists_standsFor viewed with ⟨index, stands⟩
        rw [(Catalog.standsFor_iff.mp stands).2] at entries
        simp only [List.append_eq_nil_iff, List.flatMap_eq_nil_iff,
          Catalog.entryViolations_eq_nil_iff] at entries
        refine ⟨index, module, stands, typed, asks_iff.mp ⟨present.1, long.1⟩,
          asks_iff.mp ⟨present.2, long.2⟩, fun axis => ?_⟩
        cases axis with
        | main => exact entries.1
        | value => exact entries.2
      · rintro ⟨index, found, stands, same, main, value, entries⟩
        cases typed.symm.trans same
        rcases Catalog.standsFor_iff.mp stands with ⟨viewed, registered⟩
        rw [registered]
        simp only [List.append_eq_nil_iff, List.flatMap_eq_nil_iff,
          Catalog.entryViolations_eq_nil_iff]
        rcases asks_iff.mpr main with ⟨mainThere, mainLong⟩
        rcases asks_iff.mpr value with ⟨valueThere, valueLong⟩
        exact ⟨viewed, ⟨mainThere, valueThere⟩, ⟨mainLong, valueLong⟩,
          entries .main, entries .value⟩

/--
Validation accepts the charts that follow the grammar and no others, and reports
the first violation of a chart that does not.
-/
theorem Catalog.validate_outcome (catalog : Catalog) (chart : Chart) :
    (catalog.validate chart = .ok () ↔ catalog.Grammatical chart) ∧
      ∀ violation, catalog.validate chart = .error violation ↔
        (catalog.violations chart).head? = some violation := by
  have reports := catalog.reports_validate chart
  refine ⟨?_, reports⟩
  rw [← Catalog.violations_eq_nil_iff, ← reports.exists_ok_iff]
  exact ⟨fun valid => ⟨(), valid⟩, fun ⟨_, valid⟩ => valid⟩

/--
A chart that leaves its query and aggregation types to be filled in, and one with
two violations, of which the one on the main axis is reported.
-/
theorem Catalog.validate_outcome_samples :
    let hourly : FormatError := ⟨"fixed_interval", "hourly", .fixedInterval⟩
    Sample.catalog.validate Sample.ordered = .ok () ∧
      Sample.catalog.Grammatical Sample.ordered ∧
      Sample.catalog.violations Sample.misshapen =
        [.invalidFormat hourly, .missingRequiredOption "avg" "aggregationField"] ∧
      Sample.catalog.validate Sample.misshapen =
        .error (.invalidFormat hourly) ∧
      ¬Sample.catalog.Grammatical Sample.misshapen := by
  intro hourly
  have accepted : (Sample.catalog.validate Sample.ordered).toBool = true := by
    decide +kernel
  rcases Outcome.exists_ok_of_toBool accepted with ⟨_, valid⟩
  have broken : Sample.catalog.violations Sample.misshapen =
      [.invalidFormat hourly,
       .missingRequiredOption "avg" "aggregationField"] := by
    decide +kernel
  have first : (Sample.catalog.violations Sample.misshapen).head? =
      some (.invalidFormat hourly) := by
    rw [broken, List.head?_cons]
  have rejected :=
    ((Sample.catalog.validate_outcome Sample.misshapen).2 _).mpr first
  refine ⟨valid, (Sample.catalog.validate_outcome Sample.ordered).1.mp valid,
    broken, rejected, fun grammatical => ?_⟩
  have passes :=
    (Sample.catalog.validate_outcome Sample.misshapen).1.mpr grammatical
  rw [passes] at rejected
  cases rejected

end Charts

end ChartQuery
