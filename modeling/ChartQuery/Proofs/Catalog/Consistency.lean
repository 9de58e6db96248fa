import ChartQuery.Proofs.Catalog.Handlers

/-!
# Consistent catalog files

`CatalogFile.Consistent` says what a catalog file has to be like, without an
order of checks.  `CatalogFile.faults` lists all that is wrong with one, function
by function and then data view by data view.  The main statement is that
resolution accepts the consistent files and no others, that it reports the first
fault of any other file, and that nothing of a file is lost: `ResolvesTo` tells
what a resolved catalog has from where, and which functions have a handler.
-/

namespace ChartQuery

open Outcome (faultUnless faultUnless_eq_nil_iff Reports)

namespace FunctionSpec

/-- The options that a function requires. -/
def required (spec : FunctionSpec) : OptionSchema :=
  (spec.options.getD ⟨[], []⟩).required

/-- The options that a function merely takes. -/
def optional (spec : FunctionSpec) : OptionSchema :=
  (spec.options.getD ⟨[], []⟩).optional

/-- The values that are allowed for a required option, where they are listed. -/
def allowed? (spec : FunctionSpec) (key : String) : Option (List String) :=
  (Keyed.get? key spec.required).join

/-- The first of these values. -/
def firstAllowed? (spec : FunctionSpec) (key : String) : Option String :=
  (spec.allowed? key).bind List.head?

/-- What a catalog with these option keys asks of a function. -/
structure Consistent (optionKeys : List String) (spec : FunctionSpec) :
    Prop where
  known : ∀ key ∈ Keyed.keys spec.required ++ Keyed.keys spec.optional,
    key ∈ optionKeys
  /-- Where the values of an option are listed, there is one. -/
  satisfiable : ∀ declared ∈ spec.required ++ spec.optional,
    declared.2 ≠ some []
  queryTypes : ∀ allowed, spec.allowed? "queryType" = some allowed →
    ∀ queryType ∈ allowed, queryType ∈ ["search", "aggregation", "count"]
  /-- The first aggregation type names a handler of the axis. -/
  handled : ∀ first, spec.firstAllowed? "aggregationType" = some first →
    ∃ handler : Handler, handler.name = first ∧ handler.axis = spec.axis

/-- What a function becomes under its name. -/
structure ResolvesTo (id : String) (spec : FunctionSpec)
    (function : FunctionDescriptor) : Prop where
  id : function.id = id
  name : function.name = spec.name
  description : function.description = spec.description
  axis : function.axis = spec.axis
  required : function.required = spec.required
  optional : function.optional = spec.optional
  validDataTypes : function.validDataTypes = spec.validDataTypes
  /-- Functions that list the aggregation types they require have a handler. -/
  handled : function.handler ≠ none ↔
    ∃ allowed, spec.allowed? "aggregationType" = some allowed
  /-- The handler is the one that is listed first, and is on the axis. -/
  handler : ∀ handler, function.handler = some handler →
    handler.axis = function.axis ∧
      spec.firstAllowed? "aggregationType" = some handler.name

end FunctionSpec

namespace CatalogFile

/-- A file whose functions keep to its option keys and whose views have names. -/
structure Consistent (file : CatalogFile) : Prop where
  functions : ∀ named ∈ file.functions, named.2.Consistent file.optionKeys
  dataViews : ∀ named ∈ file.dataViews, named.2.mappedIndex ≠ some ""

/-- What a catalog has from its file. -/
structure ResolvesTo (file : CatalogFile) (catalog : Catalog) : Prop where
  optionKeys : ∀ key, catalog.knowsOption key = true ↔ key ∈ file.optionKeys
  indices : catalog.indices = file.indices
  dataViews : catalog.dataViews = file.dataViews
  moduleTypes : List.Forall₂
    (fun written resolved => resolved.1 = written.1 ∧
      resolved.2.id = written.1 ∧ resolved.2.toModuleSpec = written.2)
    file.moduleTypes catalog.moduleTypes
  functions : List.Forall₂
    (fun written resolved => resolved.1 = written.1 ∧
      written.2.ResolvesTo written.1 resolved.2)
    file.functions catalog.functions

/-! ## Faults -/

/-- What is wrong with one declared option of a function. -/
def optionFaults (optionKeys : List String) (id : String)
    (declared : String × Option (List String)) : List CatalogError :=
  faultUnless (declared.1 ∈ optionKeys) (.undeclaredOptionKey id declared.1) ++
    faultUnless (declared.2 ≠ some []) (.emptyAllowedValues id declared.1)

/-- The query types of a function that are none. -/
def queryTypeFaults (id : String) (spec : FunctionSpec) : List CatalogError :=
  (((spec.allowed? "queryType").getD []).filter
    (fun queryType => queryType ∉ queryTypes)).map (.invalidQueryType id)

/-- What is wrong with the first aggregation type of a function. -/
def aggregationTypeFaults (id : String) (spec : FunctionSpec) :
    List CatalogError :=
  match spec.firstAllowed? "aggregationType" with
  | none => []
  | some aggregationType =>
      match Handler.ofName? aggregationType with
      | none => [.unknownAggregationType id aggregationType]
      | some handler =>
          faultUnless (handler.axis = spec.axis)
            (.handlerAxisMismatch id spec.axis handler)

/-- All that is wrong with a function, the required options first. -/
def functionFaults (optionKeys : List String)
    (named : String × FunctionSpec) : List CatalogError :=
  (named.2.required ++ named.2.optional).flatMap
      (optionFaults optionKeys named.1) ++
    (queryTypeFaults named.1 named.2 ++
      aggregationTypeFaults named.1 named.2)

/-- A data view that names an index without a name. -/
def dataViewFaults (named : String × DataView) : List CatalogError :=
  faultUnless (named.2.mappedIndex ≠ some "") (.emptyMappedIndex named.1)

/-- All that is wrong with a file, in file order, functions before data views. -/
def faults (file : CatalogFile) : List CatalogError :=
  file.functions.flatMap (functionFaults file.optionKeys) ++
    file.dataViews.flatMap dataViewFaults

/-! ## Absence of faults -/

section Functions

variable {optionKeys : List String} {id : String} {spec : FunctionSpec}

theorem optionFaults_eq_nil_iff {declared : String × Option (List String)} :
    optionFaults optionKeys id declared = [] ↔
      declared.1 ∈ optionKeys ∧ declared.2 ≠ some [] := by
  rw [optionFaults, List.append_eq_nil_iff, faultUnless_eq_nil_iff,
    faultUnless_eq_nil_iff]

theorem queryTypeFaults_eq_nil_iff :
    queryTypeFaults id spec = [] ↔
      ∀ allowed, spec.allowed? "queryType" = some allowed →
        ∀ queryType ∈ allowed, queryType ∈ queryTypes := by
  unfold queryTypeFaults
  cases spec.allowed? "queryType" with
  | none => simp
  | some allowed => simp

theorem aggregationTypeFaults_eq_nil_iff :
    aggregationTypeFaults id spec = [] ↔
      ∀ first, spec.firstAllowed? "aggregationType" = some first →
        ∃ handler : Handler,
          handler.name = first ∧ handler.axis = spec.axis := by
  unfold aggregationTypeFaults
  cases spec.firstAllowed? "aggregationType" with
  | none => simp
  | some first =>
      simp only [Option.some.injEq, forall_eq', ← Handler.ofName?_eq_some_iff]
      cases Handler.ofName? first with
      | none => simp
      | some handler => simp [faultUnless_eq_nil_iff]

theorem functionFaults_eq_nil_iff {named : String × FunctionSpec} :
    functionFaults optionKeys named = [] ↔
      named.2.Consistent optionKeys := by
  rw [functionFaults, List.append_eq_nil_iff, List.append_eq_nil_iff,
    List.flatMap_eq_nil_iff, queryTypeFaults_eq_nil_iff,
    aggregationTypeFaults_eq_nil_iff]
  simp only [optionFaults_eq_nil_iff]
  constructor
  · rintro ⟨options, queryTypes, handled⟩
    refine ⟨fun key member => ?_, fun declared member =>
      (options declared member).2, queryTypes, handled⟩
    rw [Keyed.keys, Keyed.keys, ← List.map_append] at member
    rcases List.mem_map.mp member with ⟨declared, there, rfl⟩
    exact (options declared there).1
  · rintro ⟨known, satisfiable, queryTypes, handled⟩
    refine ⟨fun declared member => ⟨known declared.1 ?_,
      satisfiable declared member⟩, queryTypes, handled⟩
    rw [Keyed.keys, Keyed.keys, ← List.map_append]
    exact List.mem_map_of_mem member

theorem faults_eq_nil_iff {file : CatalogFile} :
    file.faults = [] ↔ file.Consistent := by
  simp only [faults, List.append_eq_nil_iff, List.flatMap_eq_nil_iff,
    functionFaults_eq_nil_iff, dataViewFaults, faultUnless_eq_nil_iff]
  exact ⟨fun ⟨functions, dataViews⟩ => ⟨functions, dataViews⟩,
    fun ⟨functions, dataViews⟩ => ⟨functions, dataViews⟩⟩

/-! ## Checks in order -/

theorem reports_checkOption (declared : String × Option (List String)) :
    Reports (checkOption optionKeys id declared)
      (optionFaults optionKeys id declared) := by
  unfold checkOption optionFaults
  rw [ite_not]
  refine Outcome.Reports.guarded fun _ => ?_
  rw [← ite_not]
  exact Outcome.reports_if _ _ ()

theorem reports_checkQueryTypes :
    Reports (checkQueryTypes id spec.required) (queryTypeFaults id spec) := by
  have listed : (Keyed.get? "queryType" spec.required).join =
      spec.allowed? "queryType" := rfl
  rw [checkQueryTypes, listed, ← List.head?_filter, queryTypeFaults]
  cases ((spec.allowed? "queryType").getD []).filter
      (fun queryType => queryType ∉ queryTypes) with
  | nil => exact Outcome.reports_ok ()
  | cons queryType rest => exact Outcome.reports_error _ _

theorem reports_resolveHandler :
    Reports (resolveHandler id spec.axis spec.required)
      (aggregationTypeFaults id spec) := by
  have first : (Keyed.get? "aggregationType" spec.required).join.bind
      List.head? = spec.firstAllowed? "aggregationType" := rfl
  rw [resolveHandler, first, aggregationTypeFaults]
  cases spec.firstAllowed? "aggregationType" with
  | none => exact Outcome.reports_ok none
  | some aggregationType =>
      dsimp only
      cases Handler.ofName? aggregationType with
      | none => exact Outcome.reports_error _ []
      | some handler => exact Outcome.reports_if _ _ (some handler)

theorem reports_resolveFunction :
    Reports (resolveFunction optionKeys id spec)
      (functionFaults optionKeys (id, spec)) := by
  unfold resolveFunction functionFaults
  refine (Outcome.reports_forM fun declared _ =>
    reports_checkOption declared).bind fun _ _ => ?_
  refine reports_checkQueryTypes.bind fun _ _ => ?_
  exact reports_resolveHandler.map _

theorem reports_resolveFunctions (specs : Keyed String FunctionSpec) :
    Reports (resolveFunctions optionKeys specs)
      (specs.flatMap (functionFaults optionKeys)) := by
  induction specs with
  | nil => exact Outcome.reports_ok []
  | cons named rest ih =>
      rw [List.flatMap_cons]
      exact reports_resolveFunction.bind fun function _ =>
        ih.map (fun more => (named.1, function) :: more)

theorem reports_resolve (file : CatalogFile) :
    Reports file.resolve file.faults := by
  refine (reports_resolveFunctions file.functions).bind fun functions _ => ?_
  refine Outcome.Reports.map (Outcome.reports_forM fun named _ => ?_) _
  unfold checkDataView dataViewFaults
  rw [← ite_not]
  exact Outcome.reports_if _ _ ()

end Functions

/-! ## What is resolved -/

section Resolved

variable {optionKeys : List String} {id : String} {spec : FunctionSpec}
  {function : FunctionDescriptor}

theorem consistent_of_resolveFunction
    (resolved : resolveFunction optionKeys id spec = .ok function) :
    spec.Consistent optionKeys :=
  functionFaults_eq_nil_iff.mp
    (reports_resolveFunction.exists_ok_iff.mp ⟨function, resolved⟩)

/-- A list of allowed values has a first one. -/
theorem firstAllowed?_eq_none_iff (consistent : spec.Consistent optionKeys)
    {key : String} :
    spec.firstAllowed? key = none ↔ spec.allowed? key = none := by
  unfold FunctionSpec.firstAllowed?
  cases listed : spec.allowed? key with
  | none => simp
  | some allowed =>
      have declared : (key, some allowed) ∈ spec.required ++ spec.optional :=
        List.mem_append_left _
          (Keyed.mem_of_get? (Option.join_eq_some_iff.mp listed))
      have satisfiable : some allowed ≠ some [] :=
        consistent.satisfiable _ declared
      simpa using satisfiable

/-- Only a function without a first aggregation type has no handler. -/
theorem eq_none_iff_of_resolveHandler {handler : Option Handler}
    (agrees : resolveHandler id spec.axis spec.required = .ok handler) :
    handler = none ↔ spec.firstAllowed? "aggregationType" = none := by
  cases handler with
  | some handler =>
      have named : spec.firstAllowed? "aggregationType" = some handler.name :=
        (axis_and_name_of_resolveHandler agrees).2
      simp [named]
  | none =>
      unfold resolveHandler at agrees
      split at agrees
      · rename_i absent
        exact iff_of_true rfl absent
      · split at agrees
        · cases agrees
        · split at agrees <;> cases agrees

theorem resolvesTo_of_resolveFunction
    (resolved : resolveFunction optionKeys id spec = .ok function) :
    spec.ResolvesTo id function := by
  have consistent := consistent_of_resolveFunction resolved
  rcases resolveFunction_eq_ok_iff.mp resolved with
    ⟨_, _, handler, agrees, rfl⟩
  refine ⟨rfl, rfl, rfl, rfl, rfl, rfl, rfl, ?_, ?_⟩
  · rw [ne_eq, eq_none_iff_of_resolveHandler agrees,
      firstAllowed?_eq_none_iff consistent]
    exact Option.ne_none_iff_exists'
  · rintro found rfl
    exact axis_and_name_of_resolveHandler agrees

end Resolved

theorem resolvesTo_of_resolve {file : CatalogFile} {catalog : Catalog}
    (resolved : file.resolve = .ok catalog) : file.ResolvesTo catalog := by
  rcases Outcome.bind_eq_ok_iff.mp resolved with ⟨functions, all, later⟩
  rcases Outcome.bind_eq_ok_iff.mp later with ⟨_, _, made⟩
  cases made
  refine ⟨fun key => decide_eq_true_iff, rfl, rfl, ?_, ?_⟩
  · rw [List.forall₂_map_right_iff]
    exact List.forall₂_same.mpr fun _ _ => ⟨rfl, rfl, rfl⟩
  · exact (resolveFunctions_eq_ok_iff.mp all).imp fun _ _ ⟨same, here⟩ =>
      ⟨same, resolvesTo_of_resolveFunction here⟩

/--
Resolution accepts the consistent files, and reports the first fault of any
other file.  A resolved catalog has everything that is in its file, in the same
order, and the handlers that its functions name.
-/
theorem resolve_outcome (file : CatalogFile) :
    ((∃ catalog, file.resolve = .ok catalog) ↔ file.Consistent) ∧
      (∀ failure, file.resolve = .error failure ↔
        file.faults.head? = some failure) ∧
      ∀ catalog, file.resolve = .ok catalog → file.ResolvesTo catalog := by
  have reports := reports_resolve file
  refine ⟨?_, reports, fun catalog => resolvesTo_of_resolve⟩
  rw [reports.exists_ok_iff, faults_eq_nil_iff]

end CatalogFile

end ChartQuery
