import ChartQuery.Catalog.Resolution
import ChartQuery.Proofs.Keyed
import ChartQuery.Proofs.Outcome

/-!
# Handlers of resolved catalogs

A function of a resolved catalog comes from the function of the same name in
the file.  Its handler, if it has one, belongs on the axis that the file
declares for it, and it is the one that the first allowed aggregation type
names.  The options that it declares are all known to the catalog.
-/

namespace ChartQuery

/-- A handler is found under no name but its own. -/
theorem Handler.name_of_ofName? {text : String} {handler : Handler}
    (named : Handler.ofName? text = some handler) : handler.name = text := by
  unfold Handler.ofName? at named
  split at named
  · rename_i kind bucket
    cases named
    have named := List.find?_some bucket
    exact of_decide_eq_true named
  · split at named
    · rename_i kind metric
      cases named
      have named := List.find?_some metric
      exact of_decide_eq_true named
    · split at named
      · rename_i count
        cases named
        exact count.symm
      · cases named

theorem Handler.ofName?_eq_some_iff {text : String} {handler : Handler} :
    Handler.ofName? text = some handler ↔ handler.name = text := by
  constructor
  · exact Handler.name_of_ofName?
  · rintro rfl
    exact Handler.ofName?_name handler

namespace CatalogFile

/-! ## Functions -/

/-- What a function of the file resolves to, and when it does. -/
theorem resolveFunction_eq_ok_iff
    {optionKeys : List String} {id : String} {spec : FunctionSpec}
    {function : FunctionDescriptor} :
    resolveFunction optionKeys id spec = .ok function ↔
      (∀ declared ∈ (spec.options.getD ⟨[], []⟩).required ++
          (spec.options.getD ⟨[], []⟩).optional,
        checkOption optionKeys id declared = .ok ()) ∧
      checkQueryTypes id (spec.options.getD ⟨[], []⟩).required = .ok () ∧
      ∃ handler,
        resolveHandler id spec.axis (spec.options.getD ⟨[], []⟩).required =
          .ok handler ∧
        function =
          { id
            name := spec.name
            description := spec.description
            axis := spec.axis
            required := (spec.options.getD ⟨[], []⟩).required
            optional := (spec.options.getD ⟨[], []⟩).optional
            validDataTypes := spec.validDataTypes
            handler } := by
  simp only [resolveFunction, Outcome.check_bind_eq_ok_iff,
    Outcome.forM_eq_ok_iff]
  rw [Outcome.bind_eq_ok_iff]
  constructor
  · rintro ⟨options, queries, handler, handled, made⟩
    cases made
    exact ⟨options, queries, handler, handled, rfl⟩
  · rintro ⟨options, queries, handler, handled, rfl⟩
    exact ⟨options, queries, handler, handled, rfl⟩

/-- Functions are resolved one by one, each under its own name. -/
theorem resolveFunctions_eq_ok_iff {optionKeys : List String}
    {specs : Keyed String FunctionSpec}
    {functions : Keyed String FunctionDescriptor} :
    resolveFunctions optionKeys specs = .ok functions ↔
      List.Forall₂
        (fun written resolved => resolved.1 = written.1 ∧
          resolveFunction optionKeys written.1 written.2 = .ok resolved.2)
        specs functions := by
  induction specs generalizing functions with
  | nil => simp [resolveFunctions, eq_comm]
  | cons named rest ih =>
      simp only [resolveFunctions, Outcome.bind_eq_ok_iff, ih]
      constructor
      · rintro ⟨function, here, more, later, made⟩
        cases made
        exact .cons ⟨rfl, here⟩ later
      · rintro (_ | ⟨⟨same, here⟩, later⟩)
        exact ⟨_, here, _, later, by rw [← same]; rfl⟩

/-- Each resolved function comes from the function of its name. -/
theorem get?_resolveFunctions
    {optionKeys : List String} {specs : Keyed String FunctionSpec}
    {functions : Keyed String FunctionDescriptor} {id : String}
    {function : FunctionDescriptor}
    (resolved : resolveFunctions optionKeys specs = .ok functions)
    (found : Keyed.get? id functions = some function) :
    ∃ spec, Keyed.get? id specs = some spec ∧
      resolveFunction optionKeys id spec = .ok function :=
  Keyed.exists_get?_of_right
    (fun id spec function => resolveFunction optionKeys id spec = .ok function)
    (resolveFunctions_eq_ok_iff.mp resolved) found

/-- A handler belongs on the axis and has the first name that is allowed. -/
theorem axis_and_name_of_resolveHandler
    {id : String} {axis : Axis} {required : OptionSchema} {handler : Handler}
    (resolved : resolveHandler id axis required = .ok (some handler)) :
    handler.axis = axis ∧
      (Keyed.get? "aggregationType" required).join.bind List.head? =
        some handler.name := by
  unfold resolveHandler at resolved
  split at resolved
  · cases resolved
  · rename_i first
    split at resolved
    · cases resolved
    · rename_i named
      split at resolved
      · rename_i agrees
        cases resolved
        exact ⟨agrees, by rw [first, Handler.name_of_ofName? named]⟩
      · cases resolved

section Resolved

variable {file : CatalogFile} {catalog : Catalog} {id : String}
  {function : FunctionDescriptor} {handler : Handler}

/-- A function of a resolved catalog comes from one of the file. -/
theorem resolveFunction_of_resolve
    (resolved : file.resolve = .ok catalog)
    (found : catalog.function? id = some function) :
    ∃ spec, Keyed.get? id file.functions = some spec ∧
      resolveFunction catalog.optionKeys id spec = .ok function := by
  rcases Outcome.bind_eq_ok_iff.mp resolved with ⟨functions, all, later⟩
  rcases Outcome.bind_eq_ok_iff.mp later with ⟨_, _, made⟩
  cases made
  exact get?_resolveFunctions all found

theorem mem_of_checkOption {optionKeys : List String}
    {declared : String × Option (List String)}
    (passes : checkOption optionKeys id declared = .ok ()) :
    declared.1 ∈ optionKeys := by
  unfold checkOption at passes
  split at passes
  · cases passes
  · rename_i known
    exact not_not.mp known

/-- A resolved catalog knows every option that a function declares. -/
theorem knowsOption_of_resolve {key : String}
    (resolved : file.resolve = .ok catalog)
    (found : catalog.function? id = some function)
    (declared : function.declares key = true) :
    catalog.knowsOption key = true := by
  rcases resolveFunction_of_resolve resolved found with ⟨spec, _, made⟩
  rcases resolveFunction_eq_ok_iff.mp made with ⟨options, _, _, _, rfl⟩
  refine decide_eq_true ?_
  rw [FunctionDescriptor.declares, Bool.or_eq_true, Keyed.has_eq_isSome,
    Keyed.has_eq_isSome, Option.isSome_iff_exists,
    Option.isSome_iff_exists] at declared
  rcases declared with ⟨allowed, required⟩ | ⟨allowed, optional⟩
  · exact mem_of_checkOption (options (key, allowed)
      (List.mem_append_left _ (Keyed.mem_of_get? required)))
  · exact mem_of_checkOption (options (key, allowed)
      (List.mem_append_right _ (Keyed.mem_of_get? optional)))

/-- A function of a resolved catalog has the handler that it resolves to. -/
theorem resolveHandler_of_resolve
    (resolved : file.resolve = .ok catalog)
    (found : catalog.function? id = some function) :
    resolveHandler id function.axis function.required =
      .ok function.handler := by
  rcases resolveFunction_of_resolve resolved found with ⟨spec, _, made⟩
  rcases resolveFunction_eq_ok_iff.mp made with ⟨_, _, _, agrees, rfl⟩
  exact agrees

/-- In a resolved catalog every handler is on the axis of its function. -/
theorem handler_axis_of_resolve
    (resolved : file.resolve = .ok catalog)
    (found : catalog.function? id = some function)
    (handled : function.handler = some handler) :
    handler.axis = function.axis := by
  have agrees := resolveHandler_of_resolve resolved found
  rw [handled] at agrees
  exact (axis_and_name_of_resolveHandler agrees).1

/-- In a resolved catalog the first allowed aggregation type names the handler. -/
theorem requiredDefault?_of_resolve
    (resolved : file.resolve = .ok catalog)
    (found : catalog.function? id = some function)
    (handled : function.handler = some handler) :
    function.requiredDefault? "aggregationType" = some handler.name := by
  have agrees := resolveHandler_of_resolve resolved found
  rw [handled] at agrees
  exact (axis_and_name_of_resolveHandler agrees).2

end Resolved

end CatalogFile

end ChartQuery
