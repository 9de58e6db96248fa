import ChartQuery.Chart.Basic
import ChartQuery.Json.Reader
import ChartQuery.Json.Record

/-!
# Chart documents

The JSON form of charts.  Reading takes an object or the array form of a chart;
an entry is always an object.  Writing omits absent axes and an absent field,
and puts the function and the field of an entry before its options.
-/

namespace ChartQuery

namespace AxisEntry

/-- The members of an entry that are not options. -/
def declared : List String := ["functionType", "aggregationField"]

/-- Read an entry; the members that are not declared are its options. -/
def ofJson? : Json → Option AxisEntry
  | .object members => do
      let fields ← Json.record? declared (.object members)
      let function ← Json.required? fields "functionType" Json.asString?
      let field ← Json.optional? fields "aggregationField" Json.asString?
      let others := members.filter (fun member => member.1 ∉ declared)
      return ⟨function, field, Keyed.ofList others, Keyed.distinct_ofList _⟩
  | _ => none

/-- Write an entry. -/
def toJson (entry : AxisEntry) : Json :=
  .object
    (("functionType", .string entry.function) ::
      (match entry.field with
        | some field => [("aggregationField", .string field)]
        | none => []) ++
      entry.options)

end AxisEntry

namespace Chart

/-- The members of a chart in declared order. -/
def declared : List String :=
  ["data_view", "module_type", "main_axis", "value_axis"]

/-- Read a chart. -/
def ofJson? (value : Json) : Option Chart := do
  let fields ← Json.record? declared value
  let dataView ← Json.defaulted? fields "data_view" "" Json.asString?
  let moduleType ← Json.defaulted? fields "module_type" "" Json.asString?
  let main ← Json.optional? fields "main_axis" (Json.list? AxisEntry.ofJson?)
  let values ← Json.optional? fields "value_axis" (Json.list? AxisEntry.ofJson?)
  return ⟨dataView, moduleType, main, values⟩

/-- The member of an axis, left out when the axis is absent. -/
def axisMember (axis : Axis) : Option (List AxisEntry) → List (String × Json)
  | some entries => [(axis.name, .array (entries.map AxisEntry.toJson))]
  | none => []

/-- Write a chart. -/
def toJson (chart : Chart) : Json :=
  .object
    ([("data_view", .string chart.dataView),
      ("module_type", .string chart.moduleType)] ++
      axisMember .main chart.main ++ axisMember .value chart.value)

/-- Where a walk through the document of a chart is. -/
inductive Place where
  | chart
  | axis
  | entry
  | free
deriving DecidableEq

/-- Of the chart itself only the declared members are read. -/
def member (place : Place) (key : String) : Option Place :=
  match place with
  | .chart =>
      if key ∈ Axis.both.map Axis.name then some .axis
      else if key ∈ declared then some .free
      else none
  | _ => some .free

/-- In the array form of a chart the axes come third and fourth. -/
def element (place : Place) (position : Nat) : Place :=
  match place with
  | .chart => if 2 ≤ position then .axis else .free
  | .axis => .entry
  | _ => .free

/-- The plan for the document of a chart. -/
def plan : Json.Plan Place where
  member
  element
  isFree place := place = .free

/-- Read a chart from its text. -/
def read? (text : String) : Option Chart :=
  (Json.readBy? plan .chart text).bind ofJson?

end Chart

/-- Read an entry from its text. -/
def AxisEntry.read? (text : String) : Option AxisEntry :=
  (Json.readBy? Chart.plan .entry text).bind ofJson?

end ChartQuery
