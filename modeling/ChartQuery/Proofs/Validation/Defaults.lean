import ChartQuery.Proofs.Catalog.Handlers
import ChartQuery.Proofs.Compilation.Spelling
import ChartQuery.Proofs.Validation.Arrangement

/-!
# Options that are filled in

An entry may leave out its query type or its aggregation type.  Where its
function requires the option and lists what is allowed, validation takes the
first of the list.  Writing just this value out, anywhere among the options,
makes no difference: validation ends in the same way, with the same violation if
there is one, and compilation does not read the option at all.

For the violations to be the same the option has to be one that the catalog
knows, since it is looked at before anything is filled in.  A resolved catalog
knows every option that one of its functions declares.
-/

namespace ChartQuery

/-- The entry `filled` is `entry` with the first allowed value of `key` as well. -/
structure FunctionDescriptor.FillsIn (descriptor : FunctionDescriptor)
    (key first : String) (entry filled : AxisEntry) : Prop where
  injected : key ∈ injectedOptions
  listed : ∃ more,
    Keyed.get? key descriptor.required = some (some (first :: more))
  omitted : key ∉ Keyed.keys entry.options
  function : filled.function = entry.function
  field : filled.field = entry.field
  /-- The place among the options is any. -/
  options : ∃ front back, entry.options = front ++ back ∧
    filled.options = front ++ (key, .string first) :: back

/-- The entry itself, or with an option written out that would be filled in. -/
inductive Catalog.Fills (catalog : Catalog) (entry : AxisEntry) :
    AxisEntry → Prop where
  | kept : Fills catalog entry entry
  | filled {filled : AxisEntry} {descriptor : FunctionDescriptor}
      {key first : String}
      (applied : catalog.function? entry.function = some descriptor)
      (fills : descriptor.FillsIn key first entry filled) :
      Fills catalog entry filled

/-! ## One option -/

namespace FunctionDescriptor.FillsIn

variable {descriptor : FunctionDescriptor} {key first : String}
  {entry filled : AxisEntry}

theorem leading? (fills : descriptor.FillsIn key first entry filled) :
    descriptor.leading? key = some first := by
  rcases fills.listed with ⟨more, listed⟩
  rw [FunctionDescriptor.leading?, listed]

theorem get?_of_ne (fills : descriptor.FillsIn key first entry filled)
    {other : String} (different : other ≠ key) :
    Keyed.get? other filled.options = Keyed.get? other entry.options := by
  rcases fills.options with ⟨front, back, split, inserted⟩
  rw [split, inserted, Keyed.get?_append, Keyed.get?_append]
  simp [Keyed.get?, Ne.symm different]

theorem get?_self (fills : descriptor.FillsIn key first entry filled) :
    Keyed.get? key filled.options = some (.string first) := by
  rcases fills.options with ⟨front, back, split, inserted⟩
  rw [inserted]
  exact Keyed.get?_of_mem (inserted ▸ filled.distinct)
    (List.mem_append_right _ List.mem_cons_self)

theorem value? (fills : descriptor.FillsIn key first entry filled)
    (other : String) :
    descriptor.value? entry other = descriptor.value? filled other := by
  unfold FunctionDescriptor.value? AxisEntry.given?
  rw [fills.field]
  by_cases same : other = key
  · subst same
    have omitted := (Keyed.get?_eq_none_iff _ _).mpr fills.omitted
    have injected : other = "queryType" ∨ other = "aggregationType" := by
      simpa [injectedOptions] using fills.injected
    have noField : other ≠ "aggregationField" := by
      rintro rfl
      exact absurd fills.injected (by decide)
    -- Filled in on the left and given on the right, the value is the first.
    simp [fills.get?_self, omitted, injected, noField, fills.leading?]
  · rw [fills.get?_of_ne same]

/-- Among the keys that fail a test nothing is new if the option passes it. -/
theorem filter_givenKeys (fills : descriptor.FillsIn key first entry filled)
    (fails : String → Bool) (passes : fails key = false) :
    entry.givenKeys.filter fails = filled.givenKeys.filter fails := by
  rcases fills.options with ⟨front, back, split, inserted⟩
  unfold AxisEntry.givenKeys
  rw [fills.field, split, inserted]
  simp [Keyed.keys, List.filter_append, passes]

/-- Compilation does not read the option. -/
theorem agreeOn (fills : descriptor.FillsIn key first entry filled) :
    entry.AgreeOn compiledOptions filled where
  function := fills.function.symm
  field := fills.field.symm
  options other member := by
    have different : other ≠ key := by
      rintro rfl
      have apart : ∀ name ∈ compiledOptions, name ∉ injectedOptions := by
        decide
      exact apart other member fills.injected
    rw [AxisEntry.option?, AxisEntry.option?, fills.get?_of_ne different]

end FunctionDescriptor.FillsIn

/-! ## Entries -/

namespace Catalog.Fills

variable {file : CatalogFile} {catalog : Catalog} {entry filled : AxisEntry}

theorem agreeOn (fills : catalog.Fills entry filled) :
    entry.AgreeOn compiledOptions filled := by
  cases fills with
  | kept => exact ⟨rfl, rfl, fun _ _ => rfl⟩
  | filled _ fills => exact fills.agreeOn

theorem entryViolations (resolved : file.resolve = .ok catalog)
    (fills : catalog.Fills entry filled) (index : IndexMapping) (axis : Axis) :
    catalog.entryViolations index axis entry =
      catalog.entryViolations index axis filled := by
  cases fills with
  | kept => rfl
  | @filled _ descriptor key first applied fills =>
      have declared : descriptor.declares key = true :=
        declares_of_leading? fills.leading?
      have known : catalog.knowsOption key = true :=
        CatalogFile.knowsOption_of_resolve resolved applied declared
      have unknown := fills.filter_givenKeys
        (fun key => !catalog.knowsOption key) (by simp [known])
      have unmapped := fills.filter_givenKeys
        (fun key => !descriptor.declares key) (by simp [declared])
      have related : List.Forall₂ Eq
          (descriptor.violations catalog index axis entry)
          (descriptor.violations catalog index axis filled) := by
        apply FunctionDescriptor.violations_related (fun _ => rfl)
          fills.field.symm fills.value?
        · rw [unknown]
          exact Outcome.forall₂_self (fun _ => rfl) _
        · rw [unmapped]
          exact Outcome.forall₂_self (fun _ => rfl) _
      rw [List.forall₂_eq_eq_eq] at related
      unfold Catalog.entryViolations
      rw [fills.function, applied]
      exact related

end Catalog.Fills

/-! ## Charts -/

section Charts

variable {file : CatalogFile} {catalog : Catalog} {left right : Chart}

theorem Catalog.violations_eq_of_fills (resolved : file.resolve = .ok catalog)
    (view : left.dataView = right.dataView)
    (type : left.moduleType = right.moduleType)
    (filled : ∀ axis, List.Forall₂ catalog.Fills (left.entries axis)
      (right.entries axis)) :
    catalog.violations left = catalog.violations right := by
  have related : List.Forall₂ Eq (catalog.violations left)
      (catalog.violations right) := by
    refine Catalog.violations_related (fun _ => rfl) view type filled ?_
    intro index axis entry other fills
    rw [fills.entryViolations resolved index axis]
    exact Outcome.forall₂_self (fun _ => rfl) _
  rwa [List.forall₂_eq_eq_eq] at related

/--
Writing out what would be filled in, for any entries and at any place among
their options, changes neither how validation ends nor what the chart compiles
to.
-/
theorem outcomes_of_fills (resolved : file.resolve = .ok catalog)
    (view : left.dataView = right.dataView)
    (type : left.moduleType = right.moduleType)
    (filled : ∀ axis, List.Forall₂ catalog.Fills (left.entries axis)
      (right.entries axis)) :
    catalog.validate right = catalog.validate left ∧
      ∀ settings options,
        catalog.compile settings options right =
          catalog.compile settings options left := by
  have violations : catalog.violations left = catalog.violations right :=
    Catalog.violations_eq_of_fills resolved view type filled
  constructor
  · exact (catalog.reports_validate right).unique
      (violations ▸ catalog.reports_validate left)
  · intro settings options
    exact (catalog.compile_congr settings options fun axis =>
      (filled axis).imp fun _ _ fills => fills.agreeOn).symm

/-- A query type behind the other options, and an aggregation type alone. -/
theorem outcomes_of_fills_ordered :
    CatalogFile.builtin.resolve = .ok Sample.catalog ∧
      Sample.catalog.validate Sample.filled =
        Sample.catalog.validate Sample.ordered ∧
      Sample.catalog.validate Sample.ordered = .ok () ∧
      ∃ compiled,
        Sample.catalog.compile .standard .none Sample.ordered =
            .ok compiled ∧
          Sample.catalog.compile .standard .none Sample.filled =
            .ok compiled := by
  have hours : (Sample.catalog.function? "date_histogram").any
      (fun descriptor => decide (
        Keyed.get? "queryType" descriptor.required =
          some (some ["aggregation"]))) = true := by
    decide +kernel
  have count : (Sample.catalog.function? "count").any
      (fun descriptor => decide (
        Keyed.get? "aggregationType" descriptor.required =
          some (some ["doc_count"]))) = true := by
    decide +kernel
  have accepted : (Sample.catalog.validate Sample.ordered).toBool = true := by
    decide +kernel
  have succeeds :
      (Sample.catalog.compile .standard .none Sample.ordered).toBool = true := by
    decide +kernel
  have view : Sample.ordered.dataView = Sample.filled.dataView := rfl
  rcases (Option.any_eq_true _ _).mp hours with ⟨grouping, grouped, searches⟩
  rcases (Option.any_eq_true _ _).mp count with ⟨figure, figured, counts⟩
  rcases Outcome.exists_ok_of_toBool accepted with ⟨_, valid⟩
  rcases Outcome.exists_ok_of_toBool succeeds with ⟨compiled, compiles⟩
  have hourly : grouping.FillsIn "queryType" "aggregation" Sample.hours
      Sample.filledHours :=
    ⟨by decide, ⟨[], of_decide_eq_true searches⟩, by decide, rfl, rfl,
      [("fixed_interval", .string "1h")], [], rfl, rfl⟩
  have counted : figure.FillsIn "aggregationType" "doc_count" Sample.count
      Sample.filledCount :=
    ⟨by decide, ⟨[], of_decide_eq_true counts⟩, by decide, rfl, rfl, [], [],
      rfl, rfl⟩
  have filled : ∀ axis, List.Forall₂ Sample.catalog.Fills
      (Sample.ordered.entries axis) (Sample.filled.entries axis) := by
    intro axis
    cases axis with
    | main => exact .cons .kept (.cons (.filled grouped hourly) (.cons .kept .nil))
    | value => exact .cons .kept (.cons (.filled figured counted) (.cons .kept .nil))
  rcases outcomes_of_fills Sample.resolve_builtin view rfl filled with
    ⟨validates, compilesAlike⟩
  exact ⟨Sample.resolve_builtin, validates, valid, compiled, compiles,
    by rw [compilesAlike, compiles]⟩

end Charts

end ChartQuery
