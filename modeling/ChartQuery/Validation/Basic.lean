import ChartQuery.Validation.Error

/-!
# Validating charts

`Catalog.validate` checks a chart against the grammar of a catalog in a fixed
order and reports the first violation: the data view, the module type, the
presence and then the length of both axes, and then every entry, main axis
first.  Options are checked as the caller wrote them; `queryType` and
`aggregationType` are filled in from the function when they are left out.
-/

namespace ChartQuery

/-! ## Entries -/

/-- The options that are filled in when the caller leaves them out. -/
def injectedOptions : List String := ["queryType", "aggregationType"]

/-- The options that the caller wrote, a field that is there coming first. -/
def AxisEntry.supplied (entry : AxisEntry) : Keyed String Json :=
  entry.options.foldl (fun options option => Keyed.insert option.1 option.2 options)
    (match entry.field with
      | some field => [("aggregationField", .string field)]
      | none => [])

/-- Fill in one option with the first value that the function allows. -/
def FunctionDescriptor.inject (function : FunctionDescriptor)
    (options : Keyed String Json) (key : String) : Keyed String Json :=
  if Keyed.has key options then options
  else
    match function.requiredDefault? key with
    | some value => Keyed.insert key (.string value) options
    | none => options

/-- The options of an entry after filling in. -/
def FunctionDescriptor.completed (function : FunctionDescriptor)
    (entry : AxisEntry) : Keyed String Json :=
  injectedOptions.foldl function.inject entry.supplied

/-- Whether an option counts as left out: absent, `null` or an empty string. -/
def isLeftOut : Option Json → Bool
  | none => true
  | some .null => true
  | some (.string text) => text.isEmpty
  | some _ => false

/-- A required option is there and, if it is constrained, allowed. -/
def checkRequired (function : String) (options : Keyed String Json)
    (declared : String × Option (List String)) : Except ValidationError Unit :=
  let value? := Keyed.get? declared.1 options
  if isLeftOut value? then .error (.missingRequiredOption function declared.1)
  else
    match declared.2, value? with
    | some allowed, some value =>
        if value.display ∈ allowed then .ok ()
        else .error (.invalidOptionValue function declared.1 value.display allowed)
    | _, _ => .ok ()

/-- The first option key that fails a test. -/
def firstKey? (fails : String → Bool) (options : Keyed String Json) :
    Option String :=
  (Keyed.keys options).find? fails

/-- The field of an entry has a type that the function accepts, if it is known. -/
def checkFieldType (function : FunctionDescriptor) (index : IndexMapping) :
    Option String → Except ValidationError Unit
  | none => .ok ()
  | some field =>
      match Keyed.get? field index.fields with
      | none => .ok ()
      | some fieldType =>
          if function.acceptsType fieldType then .ok ()
          else .error (.invalidFieldType function.id field fieldType)

/-- Fail with an error when a fault is found. -/
def rejectIf (fault : Option String) (error : String → ValidationError) :
    Except ValidationError Unit :=
  match fault with
  | some name => .error (error name)
  | none => .ok ()

/-- Check the options of an entry for a function that is on the right axis. -/
def Catalog.checkOptions (catalog : Catalog) (index : IndexMapping)
    (function : FunctionDescriptor) (entry : AxisEntry) :
    Except ValidationError Unit := do
  rejectIf (firstKey? (fun key => !catalog.knowsOption key) entry.supplied)
    .unknownOption
  let options := function.completed entry
  function.required.forM (checkRequired function.id options)
  rejectIf (firstKey? (fun key => !function.declares key) options)
    (.unmappedOption function.id)
  (checkFormats options).mapError .invalidFormat
  checkFieldType function index entry.field

/-- Check one entry on an axis. -/
def Catalog.checkEntry (catalog : Catalog) (index : IndexMapping) (axis : Axis)
    (entry : AxisEntry) : Except ValidationError Unit :=
  match catalog.function? entry.function with
  | none => .error (.invalidFunction entry.function)
  | some function =>
      if function.axis ≠ axis then
        .error (.functionAxisMismatch function.id axis)
      else if function.handler = none then
        .error (.functionNotConfigured function.id)
      else catalog.checkOptions index function entry

/-! ## Charts -/

/-- The index that a data view stands for, with a mapping file. -/
def Catalog.resolveDataView (catalog : Catalog) (name : String) :
    Except ValidationError IndexMapping :=
  match catalog.dataView? name with
  | none => .error (.dataViewNotFound name)
  | some view =>
      match view.mappedIndex.filter (fun mapped => mapped ≠ "") with
      | none => .error (.mappedIndexMissing name)
      | some mapped =>
          match catalog.index? mapped with
          | none => .error (.indexNotRegistered mapped name)
          | some index =>
              if (index.mappingFile.getD "").isEmpty then
                .error (.mappingFileMissing mapped)
              else .ok index

/-- An axis that the module type uses is not empty. -/
def checkPresence (chart : Chart) (module : ModuleSpec) (axis : Axis) :
    Except ValidationError Unit :=
  if (chart.entries axis).isEmpty ∧ module.frequency axis ≠ .notApplicable then
    .error (.missingAxis axis)
  else .ok ()

/-- An axis has a length that the module type accepts. -/
def checkLength (chart : Chart) (module : ModuleSpec) (axis : Axis) :
    Except ValidationError Unit :=
  let length := (chart.entries axis).length
  if (module.frequency axis).accepts length then .ok ()
  else .error (.axisLength axis (module.frequency axis) length)

/-- Check a chart; the first violation is reported. -/
def Catalog.validate (catalog : Catalog) (chart : Chart) :
    Except ValidationError Unit := do
  let index ← catalog.resolveDataView chart.dataView
  match catalog.moduleType? chart.moduleType with
  | none => .error (.invalidModuleType chart.moduleType)
  | some module =>
      Axis.both.forM (checkPresence chart module.toModuleSpec)
      Axis.both.forM (checkLength chart module.toModuleSpec)
      Axis.both.forM (fun axis =>
        (chart.entries axis).forM (catalog.checkEntry index axis))

end ChartQuery
