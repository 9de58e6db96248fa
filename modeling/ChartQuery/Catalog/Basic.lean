import ChartQuery.Axis
import ChartQuery.Keyed

/-!
# Catalogs

A catalog says what charts may use: option keys, indices with the types of
their fields, data views that stand for an index, module types with the number
of entries that each axis accepts, and functions with the options that they
declare.  A `CatalogFile` is a catalog as it is written down; a `Catalog` is one
whose functions have been given their handlers
(`ChartQuery.Catalog.Resolution`).
-/

namespace ChartQuery

/-- How many entries an axis accepts. -/
inductive Frequency where
  | single
  | multiple
  | notApplicable
deriving DecidableEq

namespace Frequency

/-- Whether an axis of this length is accepted. -/
def accepts : Frequency → Nat → Bool
  | .single, length => length = 1
  | .multiple, length => 1 ≤ length
  | .notApplicable, length => length = 0

/-- What an axis of another length should have held. -/
def expectation : Frequency → String
  | .single => "must contain exactly one object"
  | .multiple => "must contain one or more objects"
  | .notApplicable => "must be absent or empty for this module type"

/-- The word for a frequency in documents. -/
def name : Frequency → String
  | .single => "Single"
  | .multiple => "Multiple"
  | .notApplicable => "NotApplicable"

/-- The frequency of a word; `N/A` is a second word for the last one. -/
def ofName? (text : String) : Option Frequency :=
  if text = "Single" then some .single
  else if text = "Multiple" then some .multiple
  else if text = "NotApplicable" ∨ text = "N/A" then some .notApplicable
  else none

@[simp]
theorem ofName?_name (frequency : Frequency) :
    ofName? frequency.name = some frequency := by
  cases frequency <;> decide

end Frequency

/-- Options by name; each with its allowed values, or none if any value is. -/
abbrev OptionSchema := Keyed String (Option (List String))

/-- An index and what is known of the types of its fields. -/
structure IndexMapping where
  mappingFile : Option String
  fields : Keyed String String
deriving DecidableEq

/-- A name that stands for an index. -/
structure DataView where
  mappedIndex : Option String
deriving DecidableEq

/-- A kind of chart as it is written down. -/
structure ModuleSpec where
  graphType : String
  main : Frequency
  value : Frequency
  colorAxis : Option String
deriving DecidableEq

/-- The options of a function. -/
structure FunctionOptions where
  required : OptionSchema
  optional : OptionSchema
deriving DecidableEq

/-- A function as it is written down. -/
structure FunctionSpec where
  name : String
  description : String
  axis : Axis
  validDataTypes : List String
  options : Option FunctionOptions
deriving DecidableEq

/-- A catalog as it is written down. -/
structure CatalogFile where
  optionKeys : List String
  indices : Keyed String IndexMapping
  dataViews : Keyed String DataView
  moduleTypes : Keyed String ModuleSpec
  functions : Keyed String FunctionSpec
deriving DecidableEq

/-- The option keys of a catalog that lists none. -/
def CatalogFile.standardOptionKeys : List String :=
  ["queryType", "aggregationType", "aggregationField", "timeZone",
   "fixed_interval", "size", "interval", "min_doc_count", "terms_size",
   "missing", "color", "order"]

/-! ## Handlers -/

/-- The groupings of the main axis. -/
inductive BucketKind where
  | terms
  | dateHistogram
  | histogram
deriving DecidableEq

/-- The metrics of the value axis that are aggregations of their own. -/
inductive MetricKind where
  | avg
  | sum
  | min
  | max
  | valueCount
  | cardinality
deriving DecidableEq

/-- The name of a grouping. -/
def BucketKind.name : BucketKind → String
  | .terms => "terms"
  | .dateHistogram => "date_histogram"
  | .histogram => "histogram"

/-- The name of a metric. -/
def MetricKind.name : MetricKind → String
  | .avg => "avg"
  | .sum => "sum"
  | .min => "min"
  | .max => "max"
  | .valueCount => "value_count"
  | .cardinality => "cardinality"

/-- All groupings. -/
def BucketKind.all : List BucketKind := [.terms, .dateHistogram, .histogram]

/-- All metrics. -/
def MetricKind.all : List MetricKind :=
  [.avg, .sum, .min, .max, .valueCount, .cardinality]

/-- The grouping of a name. -/
def BucketKind.ofName? (text : String) : Option BucketKind :=
  all.find? (fun kind => kind.name = text)

/-- The metric of a name. -/
def MetricKind.ofName? (text : String) : Option MetricKind :=
  all.find? (fun kind => kind.name = text)

/-- What a function does when a chart is compiled. -/
inductive Handler where
  | bucket (kind : BucketKind)
  | metric (kind : MetricKind)
  /-- The document count of the enclosing group; no aggregation of its own. -/
  | docCount
deriving DecidableEq

namespace Handler

/-- The aggregation type that names a handler. -/
def name : Handler → String
  | .bucket kind => kind.name
  | .metric kind => kind.name
  | .docCount => "doc_count"

/-- The handler of an aggregation type. -/
def ofName? (text : String) : Option Handler :=
  match BucketKind.ofName? text with
  | some kind => some (.bucket kind)
  | none =>
      match MetricKind.ofName? text with
      | some kind => some (.metric kind)
      | none => if text = "doc_count" then some .docCount else none

@[simp]
theorem ofName?_name (handler : Handler) : ofName? handler.name = some handler := by
  cases handler with
  | bucket kind => cases kind <;> decide
  | metric kind => cases kind <;> decide
  | docCount => decide

/-- The axis that a handler belongs on. -/
def axis : Handler → Axis
  | .bucket _ => .main
  | .metric _ => .value
  | .docCount => .value

end Handler

/-! ## Resolved catalogs -/

/-- A kind of chart under its identifier. -/
structure ModuleType extends ModuleSpec where
  id : String
deriving DecidableEq

/-- The frequency that a module type sets for an axis. -/
def ModuleSpec.frequency (module : ModuleSpec) : Axis → Frequency
  | .main => module.main
  | .value => module.value

/-- A function under its identifier, with its handler if it has one. -/
structure FunctionDescriptor where
  id : String
  name : String
  description : String
  axis : Axis
  required : OptionSchema
  optional : OptionSchema
  validDataTypes : List String
  handler : Option Handler
deriving DecidableEq

namespace FunctionDescriptor

/-- Whether the function declares an option. -/
def declares (function : FunctionDescriptor) (key : String) : Bool :=
  Keyed.has key function.required || Keyed.has key function.optional

/-- Whether the function takes a field of this type; `all` stands for any. -/
def acceptsType (function : FunctionDescriptor) (fieldType : String) : Bool :=
  function.validDataTypes.any (fun valid => valid = "all" || valid = fieldType)

/-- The first allowed value of a required option. -/
def requiredDefault? (function : FunctionDescriptor) (key : String) :
    Option String :=
  (Keyed.get? key function.required).join.bind List.head?

end FunctionDescriptor

/-- A catalog whose functions have their handlers. -/
structure Catalog where
  optionKeys : List String
  indices : Keyed String IndexMapping
  dataViews : Keyed String DataView
  moduleTypes : Keyed String ModuleType
  functions : Keyed String FunctionDescriptor
deriving DecidableEq

namespace Catalog

/-- The function of an identifier. -/
def function? (catalog : Catalog) (id : String) : Option FunctionDescriptor :=
  Keyed.get? id catalog.functions

/-- The module type of an identifier. -/
def moduleType? (catalog : Catalog) (id : String) : Option ModuleType :=
  Keyed.get? id catalog.moduleTypes

/-- The data view of a name. -/
def dataView? (catalog : Catalog) (name : String) : Option DataView :=
  Keyed.get? name catalog.dataViews

/-- The index of a name. -/
def index? (catalog : Catalog) (name : String) : Option IndexMapping :=
  Keyed.get? name catalog.indices

/-- Whether an option key is in the closed set of the catalog. -/
def knowsOption (catalog : Catalog) (key : String) : Bool :=
  key ∈ catalog.optionKeys

end Catalog

end ChartQuery
