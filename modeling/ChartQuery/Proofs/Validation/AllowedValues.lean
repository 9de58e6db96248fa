import ChartQuery.Proofs.Sample
import ChartQuery.Proofs.Validation.Grammar

/-!
# Allowed values

A function may list the values that an option can have, for options that it
requires and for options that it merely takes.  In an accepted chart an option
has one of the values that are listed among the required options.  What is
listed among the optional ones is never looked at: `Catalog.relaxed` drops these
lists, and every chart fares the same under both catalogs.
-/

namespace ChartQuery

/-- The function without allowed values for its optional options. -/
def FunctionDescriptor.relaxed (function : FunctionDescriptor) :
    FunctionDescriptor :=
  { function with
    optional := function.optional.map fun declared => (declared.1, none) }

/-- The catalog without allowed values for optional options. -/
def Catalog.relaxed (catalog : Catalog) : Catalog :=
  { catalog with
    functions := catalog.functions.map fun named =>
      (named.1, named.2.relaxed) }

/-! ## Lists that are not looked at -/

section Relaxed

variable (catalog : Catalog) (index : IndexMapping) (axis : Axis)
  (function : FunctionDescriptor) (entry : AxisEntry)

@[simp]
theorem FunctionDescriptor.declares_relaxed (key : String) :
    function.relaxed.declares key = function.declares key := by
  have dropped : Keyed.has key function.relaxed.optional =
      Keyed.has key function.optional := by
    rw [Keyed.has_eq_isSome, Keyed.has_eq_isSome,
      FunctionDescriptor.relaxed, Keyed.get?_map (fun _ => none),
      Option.isSome_map]
  rw [FunctionDescriptor.declares, FunctionDescriptor.declares, dropped]
  rfl

theorem Catalog.function?_relaxed (id : String) :
    catalog.relaxed.function? id =
      (catalog.function? id).map FunctionDescriptor.relaxed :=
  Keyed.get?_map FunctionDescriptor.relaxed id catalog.functions

theorem Catalog.checkOptions_relaxed :
    catalog.relaxed.checkOptions index function.relaxed entry =
      catalog.checkOptions index function entry := by
  simp only [Catalog.checkOptions, FunctionDescriptor.declares_relaxed]
  rfl

theorem Catalog.checkEntry_relaxed :
    catalog.relaxed.checkEntry index axis = catalog.checkEntry index axis := by
  funext entry
  unfold Catalog.checkEntry
  rw [Catalog.function?_relaxed]
  cases catalog.function? entry.function with
  | none => rfl
  | some function =>
      simp only [Option.map_some, Catalog.checkOptions_relaxed]
      rfl

theorem Catalog.validate_relaxed (chart : Chart) :
    catalog.relaxed.validate chart = catalog.validate chart := by
  simp only [Catalog.validate, Catalog.checkEntry_relaxed]
  rfl

end Relaxed

/-! ## Lists that are -/

/-- In an accepted chart every entry is one that its function allows. -/
theorem Catalog.exists_allows_of_validate
    {catalog : Catalog} {chart : Chart} {axis : Axis} {entry : AxisEntry}
    (valid : catalog.validate chart = .ok ())
    (member : entry ∈ chart.entries axis) :
    ∃ (index : IndexMapping) (function : FunctionDescriptor),
      catalog.function? entry.function = some function ∧
        function.Allows catalog index axis entry := by
  have sound : catalog.violations chart = [] :=
    (catalog.reports_validate chart).passes_iff.mp valid
  rcases Catalog.violations_eq_nil_iff.mp sound with
    ⟨index, _, _, _, _, _, entries⟩
  exact ⟨index, entries axis entry member⟩

/-- A given option has one of the values that are listed for it. -/
theorem FunctionDescriptor.Allows.display_mem
    {function : FunctionDescriptor} {catalog : Catalog} {index : IndexMapping}
    {axis : Axis} {entry : AxisEntry} {key : String} {value : Json}
    {allowed : List String}
    (allows : function.Allows catalog index axis entry)
    (declared : (key, some allowed) ∈ function.required)
    (given : entry.given? key = some value) :
    value.display ∈ allowed := by
  rcases allows.required key (some allowed) declared with
    ⟨taken, completed, _, _, listed⟩
  have written : function.value? entry key = some value := by
    rw [FunctionDescriptor.value?, given, Option.some_or]
  rw [written] at completed
  cases completed
  exact Json.exists_hasText_iff.mp (listed allowed rfl)

/--
In an accepted chart a given option has one of the values that its function
lists for it among the required options.  The chart is accepted just the same if
nothing is listed among the optional ones.
-/
theorem display_mem_of_validate
    {catalog : Catalog} {chart : Chart} {axis : Axis} {entry : AxisEntry}
    {function : FunctionDescriptor} {key : String} {value : Json}
    (valid : catalog.validate chart = .ok ())
    (member : entry ∈ chart.entries axis)
    (applied : catalog.function? entry.function = some function)
    (given : entry.given? key = some value) :
    (∀ allowed, (key, some allowed) ∈ function.required →
      value.display ∈ allowed) ∧
      catalog.relaxed.validate chart = .ok () := by
  refine ⟨fun allowed declared => ?_, ?_⟩
  · rcases Catalog.exists_allows_of_validate valid member with
      ⟨index, found, same, allows⟩
    rw [applied] at same
    cases same
    exact allows.display_mem declared given
  · rw [Catalog.validate_relaxed]
    exact valid

/-- A figure by the second of two aggregation types is accepted. -/
theorem display_mem_of_validate_secondChoice :
    Sample.choiceCatalog.validate Sample.choices = .ok () ∧
      Sample.secondChoice ∈ Sample.choices.entries .value ∧
      ∃ function,
        Sample.choiceCatalog.function? "figure" = some function ∧
          Sample.secondChoice.given? "aggregationType" =
            some (.string "sum") ∧
          ("aggregationType", some ["avg", "sum"]) ∈ function.required ∧
          Json.display (.string "sum") ∈ ["avg", "sum"] ∧
          Sample.choiceCatalog.relaxed.validate Sample.choices = .ok () := by
  have accepted :
      (Sample.choiceCatalog.validate Sample.choices).toBool = true := by
    decide +kernel
  have known : (Sample.choiceCatalog.function? "figure").any
      (fun function => decide (("aggregationType", some ["avg", "sum"]) ∈
        function.required)) = true := by
    decide +kernel
  have given : Sample.secondChoice.given? "aggregationType" =
      some (.string "sum") := by
    decide +kernel
  rcases Outcome.exists_ok_of_toBool accepted with ⟨_, valid⟩
  rcases (Option.any_eq_true _ _).mp known with ⟨function, applied, listed⟩
  have member : Sample.secondChoice ∈ Sample.choices.entries .value :=
    List.mem_cons_self
  have declared := of_decide_eq_true listed
  rcases display_mem_of_validate valid member applied given with
    ⟨holds, relaxed⟩
  exact ⟨valid, member, function, applied, given, declared,
    holds _ declared, relaxed⟩

/--
The figure also gives a colour, which is not one of the two that its function
lists among the optional options; the chart is accepted all the same.
-/
theorem display_not_mem_color :
    Sample.choiceFile.resolve = .ok Sample.choiceCatalog ∧
      Sample.choiceCatalog.validate Sample.choices = .ok () ∧
      Sample.secondChoice ∈ Sample.choices.entries .value ∧
      ∃ function,
        Sample.choiceCatalog.function? Sample.secondChoice.function =
            some function ∧
          Sample.secondChoice.given? "color" = some (.string "red") ∧
          ("color", some ["blue", "green"]) ∈ function.optional ∧
          Json.display (.string "red") ∉ ["blue", "green"] := by
  have accepted :
      (Sample.choiceCatalog.validate Sample.choices).toBool = true := by
    decide +kernel
  have known :
      (Sample.choiceCatalog.function? Sample.secondChoice.function).any
        (fun function => decide (("color", some ["blue", "green"]) ∈
          function.optional)) = true := by
    decide +kernel
  rcases Outcome.exists_ok_of_toBool accepted with ⟨_, valid⟩
  rcases (Option.any_eq_true _ _).mp known with ⟨function, applied, listed⟩
  exact ⟨Sample.resolve_choiceFile, valid, List.mem_cons_self, function,
    applied, by decide +kernel, of_decide_eq_true listed, by decide⟩

end ChartQuery
