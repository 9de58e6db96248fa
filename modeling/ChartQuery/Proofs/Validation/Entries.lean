import ChartQuery.Proofs.Outcome
import ChartQuery.Proofs.Validation.Formats
import ChartQuery.Proofs.Validation.Options

/-!
# What validation establishes

A chart is accepted when its data view and its module type are known, both axes
have the right length and every entry passes.  An entry passes when its function
exists, belongs on the axis, has a handler and agrees with its options.  Each of
these is an equivalence, so a theorem about accepted charts never opens the
checks again.

Options are checked after two of them may have been filled in.  None of these
has a form, so an entry that passes has every option in its form as written.
-/

namespace ChartQuery

/-! ## Options -/

theorem rejectIf_eq_ok_iff {fault : Option String}
    {error : String → ValidationError} :
    rejectIf fault error = .ok () ↔ fault = none := by
  cases fault <;> simp [rejectIf]

theorem checkFormat_eq_ok_iff {options : Keyed String Json}
    {checked : String × OptionFormat} :
    checkFormat options checked = .ok () ↔
      ∀ value, Keyed.get? checked.1 options = some value →
        checked.2.accepts value = true := by
  unfold checkFormat
  cases Keyed.get? checked.1 options with
  | none => simp
  | some value => simp

theorem checkFormats_eq_ok_iff {options : Keyed String Json} :
    checkFormats options = .ok () ↔
      ∀ checked ∈ OptionFormat.checked, ∀ value,
        Keyed.get? checked.1 options = some value →
          checked.2.accepts value = true := by
  rw [checkFormats, Outcome.forM_eq_ok_iff]
  exact forall₂_congr fun _ _ => checkFormat_eq_ok_iff

/-! ## Entries -/

section Entries

variable {catalog : Catalog} {index : IndexMapping}
  {function : FunctionDescriptor} {entry : AxisEntry} {axis : Axis}

theorem Catalog.checkOptions_eq_ok_iff :
    catalog.checkOptions index function entry = .ok () ↔
      firstKey? (fun key => !catalog.knowsOption key) entry.supplied = none ∧
        (∀ declared ∈ function.required,
          checkRequired function.id (function.completed entry) declared =
            .ok ()) ∧
        firstKey? (fun key => !function.declares key)
          (function.completed entry) = none ∧
        checkFormats (function.completed entry) = .ok () ∧
        checkFieldType function index entry.field = .ok () := by
  have formats : ∀ outcome : Except FormatError Unit,
      outcome.mapError ValidationError.invalidFormat = .ok () ↔
        outcome = .ok () := by
    intro outcome
    cases outcome <;> simp [Except.mapError]
  simp only [Catalog.checkOptions, Outcome.check_bind_eq_ok_iff,
    rejectIf_eq_ok_iff, Outcome.forM_eq_ok_iff, formats]

theorem Catalog.checkEntry_eq_ok_iff :
    catalog.checkEntry index axis entry = .ok () ↔
      ∃ function handler,
        catalog.function? entry.function = some function ∧
          function.axis = axis ∧ function.handler = some handler ∧
          catalog.checkOptions index function entry = .ok () := by
  unfold Catalog.checkEntry
  cases catalog.function? entry.function with
  | none => simp
  | some function =>
      by_cases placed : function.axis = axis
      · cases handled : function.handler with
        | none => simp [placed, handled]
        | some handler => simp [placed, handled]
      · simp [placed]

/-- In an entry that passes, every option has its form. -/
theorem fits_of_checkEntry
    (passes : catalog.checkEntry index axis entry = .ok ())
    {key : String} {format : OptionFormat}
    (checked : (key, format) ∈ OptionFormat.checked) :
    entry.Fits key format := by
  rcases Catalog.checkEntry_eq_ok_iff.mp passes with
    ⟨function, handler, _, _, _, options⟩
  rcases Catalog.checkOptions_eq_ok_iff.mp options with ⟨_, _, _, formed, _⟩
  intro value written
  apply checkFormats_eq_ok_iff.mp formed _ checked value
  rw [get?_completed, value?_of_checked function entry checked]
  exact written

/-- In an entry that passes, an order that is written is a sort order. -/
theorem order_of_checkEntry
    (passes : catalog.checkEntry index axis entry = .ok ())
    {parsed : Except OrderError Order} (asked : entry.order? = some parsed) :
    ∃ order, parsed = .ok order := by
  have fits : entry.Fits "order" .order :=
    fits_of_checkEntry passes (by decide)
  rcases Option.map_eq_some_iff.mp asked with ⟨value, written, rfl⟩
  rw [AxisEntry.option?_of_fits fits] at written
  exact Outcome.exists_ok_of_toBool (fits value written)

end Entries

/-! ## Charts -/

/-- What it takes for a chart to be accepted. -/
theorem Catalog.validate_eq_ok_iff {catalog : Catalog} {chart : Chart} :
    catalog.validate chart = .ok () ↔
      ∃ index module,
        catalog.resolveDataView chart.dataView = .ok index ∧
          catalog.moduleType? chart.moduleType = some module ∧
          (∀ axis, checkPresence chart module.toModuleSpec axis = .ok ()) ∧
          (∀ axis, checkLength chart module.toModuleSpec axis = .ok ()) ∧
          ∀ axis, ∀ entry ∈ chart.entries axis,
            catalog.checkEntry index axis entry = .ok () := by
  simp only [Catalog.validate, Outcome.bind_eq_ok_iff]
  cases catalog.moduleType? chart.moduleType with
  | none => simp
  | some module =>
      simp only [Outcome.check_bind_eq_ok_iff, Outcome.forM_eq_ok_iff,
        Axis.mem_both, true_implies]
      constructor
      · rintro ⟨index, view, present, long, entries⟩
        exact ⟨index, module, view, rfl, present, long, entries⟩
      · rintro ⟨index, found, view, same, present, long, entries⟩
        cases same
        exact ⟨index, view, present, long, entries⟩

end ChartQuery
