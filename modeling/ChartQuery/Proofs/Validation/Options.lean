import ChartQuery.Proofs.Keyed
import ChartQuery.Validation.Basic

/-!
# Options that validation looks at

A caller gives the options of an entry, and the field as one of them; validation
adds the first allowed `queryType` and `aggregationType` where the function
requires one and the caller gives none.  The value of an option and the first
key of some kind can be told from the entry and the function alone, without the
map that validation builds on the way.
-/

namespace ChartQuery

/-- The value that the caller gives to an option. -/
def AxisEntry.given? (entry : AxisEntry) (key : String) : Option Json :=
  (Keyed.get? key entry.options).or
    (if key = "aggregationField" then entry.field.map .string else none)

/-- The keys of the options that the caller gives. -/
def AxisEntry.givenKeys (entry : AxisEntry) : List String :=
  (match entry.field with
    | some _ => ["aggregationField"]
    | none => []) ++ Keyed.keys entry.options

/-- The first of the values that a function lists for an option it requires. -/
def FunctionDescriptor.leading? (function : FunctionDescriptor)
    (key : String) : Option String :=
  match Keyed.get? key function.required with
  | some (some (first :: _)) => some first
  | _ => none

/--
The value that counts for an option: what the caller gives, or else, for a query
type or an aggregation type, the first that is listed.
-/
def FunctionDescriptor.value? (function : FunctionDescriptor)
    (entry : AxisEntry) (key : String) : Option Json :=
  (entry.given? key).or
    (if key = "queryType" ∨ key = "aggregationType" then
      (function.leading? key).map .string
    else none)

/-! ## Values -/

theorem FunctionDescriptor.requiredDefault?_eq (function : FunctionDescriptor)
    (key : String) : function.requiredDefault? key = function.leading? key := by
  unfold requiredDefault? leading?
  cases Keyed.get? key function.required with
  | none => rfl
  | some allowed =>
      cases allowed with
      | none => rfl
      | some values => cases values <;> rfl

theorem get?_supplied (entry : AxisEntry) (key : String) :
    Keyed.get? key entry.supplied = entry.given? key := by
  rw [AxisEntry.supplied, Keyed.get?_foldl_insert key entry.distinct,
    AxisEntry.given?]
  congr 1
  cases entry.field with
  | none => simp [Keyed.get?]
  | some field => simp [Keyed.get?, eq_comm]

theorem get?_inject (function : FunctionDescriptor)
    (options : Keyed String Json) (key injected : String) :
    Keyed.get? key (function.inject options injected) =
      (Keyed.get? key options).or
        (if key = injected then
          (function.requiredDefault? injected).map .string
        else none) := by
  unfold FunctionDescriptor.inject
  rw [Keyed.has_eq_isSome]
  by_cases same : key = injected
  · subst same
    cases there : Keyed.get? key options with
    | some value => simp [there]
    | none =>
        cases function.requiredDefault? key with
        | none => simp [there]
        | some value => simp
  · rw [if_neg same, Option.or_none]
    split
    · rfl
    · split
      · exact Keyed.get?_insert_of_ne same _ _
      · rfl

theorem get?_completed (function : FunctionDescriptor) (entry : AxisEntry)
    (key : String) :
    Keyed.get? key (function.completed entry) = function.value? entry key := by
  simp only [FunctionDescriptor.completed, injectedOptions, List.foldl_cons,
    List.foldl_nil, get?_inject, get?_supplied, FunctionDescriptor.value?,
    FunctionDescriptor.requiredDefault?_eq]
  by_cases query : key = "queryType"
  · subst query
    simp
  · by_cases aggregation : key = "aggregationType"
    · subst aggregation
      simp
    · simp [query, aggregation]

/-- None of the options that have a form is filled in. -/
theorem value?_of_checked (function : FunctionDescriptor) (entry : AxisEntry)
    {checked : String × OptionFormat}
    (member : checked ∈ OptionFormat.checked) :
    function.value? entry checked.1 = Keyed.get? checked.1 entry.options := by
  have apart : ∀ checked ∈ OptionFormat.checked,
      checked.1 ≠ "aggregationField" ∧
        ¬(checked.1 = "queryType" ∨ checked.1 = "aggregationType") := by
    decide
  rcases apart checked member with ⟨notField, notInjected⟩
  rw [FunctionDescriptor.value?, AxisEntry.given?, if_neg notField,
    if_neg notInjected, Option.or_none, Option.or_none]

/-! ## Keys -/

theorem firstKey?_supplied (fails : String → Bool) (entry : AxisEntry) :
    firstKey? fails entry.supplied = (entry.givenKeys.filter fails).head? := by
  rw [firstKey?, AxisEntry.supplied, Keyed.find?_keys_foldl_insert,
    List.head?_filter, AxisEntry.givenKeys]
  cases entry.field <;> rfl

theorem declares_of_leading? {function : FunctionDescriptor}
    {key value : String} (first : function.leading? key = some value) :
    function.declares key = true := by
  have there : Keyed.get? key function.required ≠ none := by
    intro absent
    rw [FunctionDescriptor.leading?, absent] at first
    cases first
  simp [FunctionDescriptor.declares, Keyed.has_eq_isSome,
    Option.isSome_iff_ne_none, there]

/-- What is filled in is declared, so it is never the first undeclared key. -/
theorem firstKey?_inject (function : FunctionDescriptor)
    (options : Keyed String Json) (key : String) :
    firstKey? (fun key => !function.declares key)
        (function.inject options key) =
      firstKey? (fun key => !function.declares key) options := by
  unfold FunctionDescriptor.inject
  split
  · rfl
  · split
    · rename_i default
      rw [function.requiredDefault?_eq] at default
      rw [firstKey?, Keyed.find?_keys_insert, List.find?_append]
      simp [declares_of_leading? default, firstKey?]
    · rfl

theorem firstKey?_completed (function : FunctionDescriptor)
    (entry : AxisEntry) :
    firstKey? (fun key => !function.declares key)
        (function.completed entry) =
      (entry.givenKeys.filter (fun key => !function.declares key)).head? := by
  simp only [FunctionDescriptor.completed, injectedOptions, List.foldl_cons,
    List.foldl_nil, firstKey?_inject, firstKey?_supplied]

end ChartQuery
