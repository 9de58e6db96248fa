import ChartQuery.Catalog.Basic

/-!
# Resolving a catalog

Resolution checks that a catalog file is consistent and gives every function
its handler.  Checks run in a fixed order and the first violation is reported:
functions in file order, within one the options (required, then optional), the
query types, the aggregation type; then the data views.
-/

namespace ChartQuery

/-- Why a catalog file is inconsistent. -/
inductive CatalogError where
  | undeclaredOptionKey (function option : String)
  | emptyAllowedValues (function option : String)
  | invalidQueryType (function queryType : String)
  | unknownAggregationType (function aggregationType : String)
  | handlerAxisMismatch (function : String) (axis : Axis) (handler : Handler)
  | emptyMappedIndex (dataView : String)
deriving DecidableEq

/-- The text of a catalog error. -/
def CatalogError.message : CatalogError → String
  | .undeclaredOptionKey function option =>
      "Function '" ++ function ++ "' declares option '" ++ option ++
        "' which is not a recognized option key"
  | .emptyAllowedValues function option =>
      "Function '" ++ function ++ "' declares option '" ++ option ++
        "' with an empty allowed-value set"
  | .invalidQueryType function queryType =>
      "Function '" ++ function ++ "' declares invalid queryType '" ++ queryType ++ "'"
  | .unknownAggregationType function aggregationType =>
      "Function '" ++ function ++ "' declares unknown aggregationType '" ++
        aggregationType ++ "'"
  | .handlerAxisMismatch function axis handler =>
      "Function '" ++ function ++ "' has axis role '" ++ axis.role ++
        "' but its handler '" ++ handler.name ++ "' belongs on the other axis"
  | .emptyMappedIndex dataView =>
      "Data view '" ++ dataView ++ "' has an empty mapped index name"

namespace CatalogFile

/-- The query types that a function may require. -/
def queryTypes : List String := ["search", "aggregation", "count"]

/-- A declared option is a known key, and a list of allowed values is not empty. -/
def checkOption (optionKeys : List String) (function : String)
    (declared : String × Option (List String)) : Except CatalogError Unit :=
  if declared.1 ∉ optionKeys then
    .error (.undeclaredOptionKey function declared.1)
  else if declared.2 = some [] then
    .error (.emptyAllowedValues function declared.1)
  else .ok ()

/-- Every allowed value of a required `queryType` is a query type. -/
def checkQueryTypes (function : String) (required : OptionSchema) :
    Except CatalogError Unit :=
  match ((Keyed.get? "queryType" required).join.getD []).find?
      (fun queryType => queryType ∉ queryTypes) with
  | some queryType => .error (.invalidQueryType function queryType)
  | none => .ok ()

/-- The handler that the first allowed aggregation type names. -/
def resolveHandler (function : String) (axis : Axis) (required : OptionSchema) :
    Except CatalogError (Option Handler) :=
  match (Keyed.get? "aggregationType" required).join.bind List.head? with
  | none => .ok none
  | some aggregationType =>
      match Handler.ofName? aggregationType with
      | none => .error (.unknownAggregationType function aggregationType)
      | some handler =>
          if handler.axis = axis then .ok (some handler)
          else .error (.handlerAxisMismatch function axis handler)

/-- Check one function and give it its handler. -/
def resolveFunction (optionKeys : List String) (id : String)
    (spec : FunctionSpec) : Except CatalogError FunctionDescriptor := do
  let options := spec.options.getD ⟨[], []⟩
  (options.required ++ options.optional).forM (checkOption optionKeys id)
  checkQueryTypes id options.required
  let handler ← resolveHandler id spec.axis options.required
  return {
    id
    name := spec.name
    description := spec.description
    axis := spec.axis
    required := options.required
    optional := options.optional
    validDataTypes := spec.validDataTypes
    handler }

/-- Resolve functions one after the other. -/
def resolveFunctions (optionKeys : List String) :
    Keyed String FunctionSpec → Except CatalogError (Keyed String FunctionDescriptor)
  | [] => .ok []
  | (id, spec) :: rest => do
      let function ← resolveFunction optionKeys id spec
      let more ← resolveFunctions optionKeys rest
      return (id, function) :: more

/-- A data view that names an index names one that is not empty. -/
def checkDataView (entry : String × DataView) : Except CatalogError Unit :=
  if entry.2.mappedIndex = some "" then .error (.emptyMappedIndex entry.1)
  else .ok ()

/-- Put the key of a module type into it. -/
def identifyModule (entry : String × ModuleSpec) : String × ModuleType :=
  (entry.1, { entry.2 with id := entry.1 })

/-- Check a catalog file and resolve its functions. -/
def resolve (file : CatalogFile) : Except CatalogError Catalog := do
  let functions ← resolveFunctions file.optionKeys file.functions
  file.dataViews.forM checkDataView
  return {
    optionKeys := file.optionKeys
    indices := file.indices
    dataViews := file.dataViews
    moduleTypes := file.moduleTypes.map identifyModule
    functions }

end CatalogFile

end ChartQuery
