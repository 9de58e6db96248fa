import ChartQuery.Axis
import ChartQuery.Json.Basic

/-!
# Charts

A chart names a data view and a module type and lists the entries of its axes.
An entry applies one function, usually to one field; all other members that the
caller wrote are its options, in written order and each at most once.  An axis
may be absent, which differs from an empty one only in the document.
-/

namespace ChartQuery

/-- One function applied at one position of an axis. -/
structure AxisEntry where
  function : String
  field : Option String
  options : Keyed String Json
  distinct : Keyed.Distinct options := by decide
deriving DecidableEq

namespace AxisEntry

/-- An option that is there and not `null`. -/
def option? (entry : AxisEntry) (key : String) : Option Json :=
  (Keyed.get? key entry.options).filter (fun value => !value.isNull)

/-- A nonnegative integer option; anything else reads as absent. -/
def count? (entry : AxisEntry) (key : String) : Option UInt64 :=
  (entry.option? key).bind Json.asUInt64?

/-- A numeric option as a float. -/
def decimal? (entry : AxisEntry) (key : String) : Option Binary64 :=
  (entry.option? key).bind Json.asBinary64?

/-- A string option. -/
def text? (entry : AxisEntry) (key : String) : Option String :=
  (entry.option? key).bind Json.asString?

end AxisEntry

/-- A chart definition as the caller gives it. -/
structure Chart where
  dataView : String
  moduleType : String
  main : Option (List AxisEntry)
  value : Option (List AxisEntry)
deriving DecidableEq

namespace Chart

/-- The entries of an axis; an absent axis has none. -/
def entries (chart : Chart) : Axis → List AxisEntry
  | .main => chart.main.getD []
  | .value => chart.value.getD []

end Chart

end ChartQuery
