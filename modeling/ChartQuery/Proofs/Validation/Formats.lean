import ChartQuery.Proofs.Chart.Options
import ChartQuery.Proofs.Json.Record
import ChartQuery.Validation.Format

/-!
# Options in the right form

The readers of `AxisEntry` take an option of another form for one that is left
out, and so does compilation, which then falls back on a default.  An option
that has its form is read as it is written: writing the reading back as a JSON
value gives the option, and nothing is read only where nothing is written.
-/

namespace ChartQuery

/-! ## Values -/

theorem Json.asUInt64?_eq_some_iff {value : Json} {word : UInt64} :
    value.asUInt64? = some word ↔ value = .ofUInt64 word := by
  constructor
  · intro read
    cases value with
    | number number =>
        cases number with
        | float number => cases read
        | integer value fits =>
            simp only [Json.asUInt64?, Json.Number.toUInt64?] at read
            split at read
            · rename_i nonnegative
              have inside : value.toNat < UInt64.size := by
                have size : UInt64.size = 18446744073709551616 := rfl
                omega
              cases read
              simp only [Json.ofUInt64, Json.Number.ofUInt64,
                Json.number.injEq, Json.Number.integer.injEq]
              rw [UInt64.toNat_ofNat_of_lt' inside]
              omega
            · cases read
    | _ => cases read
  · rintro rfl
    exact Json.asUInt64?_ofUInt64 word

/-! ## Forms -/

namespace OptionFormat

variable {format : OptionFormat} {value : Json}

/-- The forms that only strings have. -/
def isTextual : OptionFormat → Bool
  | .timeZone => true
  | .fixedInterval => true
  | .text => true
  | _ => false

theorem ne_null_of_accepts (accepted : format.accepts value = true) :
    value ≠ .null := by
  rintro rfl
  cases format <;> contradiction

theorem exists_word_of_accepts
    (accepted : OptionFormat.count.accepts value = true) :
    ∃ word, value = .ofUInt64 word := by
  rcases Option.isSome_iff_exists.mp accepted with ⟨word, read⟩
  exact ⟨word, Json.asUInt64?_eq_some_iff.mp read⟩

theorem exists_number_of_accepts
    (accepted : OptionFormat.number.accepts value = true) :
    ∃ number, value = .number number := by
  cases value with
  | number number => exact ⟨number, rfl⟩
  | _ => contradiction

theorem exists_text_of_accepts (textual : format.isTextual = true)
    (accepted : format.accepts value = true) :
    ∃ text, value = .string text := by
  cases value with
  | string text => exact ⟨text, rfl⟩
  | _ => cases format <;> contradiction

end OptionFormat

/-! ## Readers -/

namespace AxisEntry

/-- Where the option is written, it has the form. -/
def Fits (entry : AxisEntry) (key : String) (format : OptionFormat) : Prop :=
  ∀ value, Keyed.get? key entry.options = some value →
    format.accepts value = true

/-- What is written for the option, or else a default. -/
def writtenOr (entry : AxisEntry) (key : String) (default : Json) : Json :=
  (Keyed.get? key entry.options).getD default

variable {entry : AxisEntry} {key : String} {format : OptionFormat}

/-- No form admits `null`, so nothing that is written counts as left out. -/
theorem option?_of_fits (fits : entry.Fits key format) :
    entry.option? key = Keyed.get? key entry.options := by
  cases written : Keyed.get? key entry.options with
  | none => exact option?_eq_none_iff.mpr (.inl written)
  | some value =>
      exact option?_eq_some_iff.mpr
        ⟨written, OptionFormat.ne_null_of_accepts (fits value written)⟩

theorem map_count? (fits : entry.Fits key .count) :
    (entry.count? key).map .ofUInt64 = Keyed.get? key entry.options := by
  rw [count?, option?_of_fits fits]
  cases written : Keyed.get? key entry.options with
  | none => rfl
  | some value =>
      rcases OptionFormat.exists_word_of_accepts (fits value written) with
        ⟨word, rfl⟩
      have read : (Json.ofUInt64 word).asUInt64? = some word :=
        Json.asUInt64?_eq_some_iff.mpr rfl
      rw [Option.bind_some, read, Option.map_some]

theorem ofUInt64_getD_count? (fits : entry.Fits key .count)
    (default : UInt64) :
    .ofUInt64 ((entry.count? key).getD default) =
      entry.writtenOr key (.ofUInt64 default) := by
  rw [writtenOr, ← map_count? fits, Option.getD_map]

theorem map_text? (fits : entry.Fits key format)
    (textual : format.isTextual = true) :
    (entry.text? key).map .string = Keyed.get? key entry.options := by
  rw [text?, option?_of_fits fits]
  cases written : Keyed.get? key entry.options with
  | none => rfl
  | some value =>
      rcases OptionFormat.exists_text_of_accepts textual
        (fits value written) with ⟨text, rfl⟩
      rfl

theorem string_getD_text? (fits : entry.Fits key format)
    (textual : format.isTextual = true) (default : String) :
    .string ((entry.text? key).getD default) =
      entry.writtenOr key (.string default) := by
  rw [writtenOr, ← map_text? fits textual, Option.getD_map]

/-- What is read as a float is a number, of either kind. -/
theorem exists_number_writtenOr (fits : entry.Fits key .number)
    (default : Binary64) :
    ∃ number,
      entry.writtenOr key (.number (.float default)) = .number number ∧
        (entry.decimal? key).getD default = number.toBinary64 := by
  rw [writtenOr, decimal?, option?_of_fits fits]
  cases written : Keyed.get? key entry.options with
  | none => exact ⟨.float default, rfl, rfl⟩
  | some value =>
      rcases OptionFormat.exists_number_of_accepts (fits value written) with
        ⟨number, rfl⟩
      exact ⟨number, rfl, rfl⟩

end AxisEntry

end ChartQuery
