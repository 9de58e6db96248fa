import ChartQuery.Chart.Order

/-!
# Failures of compilation

Why a chart does not compile.  Three causes are the caller's to mend; the other
three mean that the chart was not validated or that the catalog does not fit.
-/

namespace ChartQuery

/-- The first thing that keeps a chart from compiling. -/
inductive CompileError where
  | orderIndexOutOfRange (index : Int) (available : Nat)
  | invalidOrder (error : OrderError)
  | unknownFunction (name : String)
  | missingAggregationType (function : String)
  | functionAxisMismatch (function : String) (axis : Axis)
  | aggregationIdCollision (id : String)
deriving DecidableEq

namespace CompileError

/-- The stable code of a failure. -/
def code : CompileError → String
  | .orderIndexOutOfRange _ _ => "INVALID_VALUE_AXIS_INDEX_IN_ORDER"
  | .invalidOrder _ => "INVALID_ORDER"
  | .unknownFunction _ => "UNKNOWN_FUNCTION"
  | .missingAggregationType _ => "MISSING_AGGREGATION_TYPE"
  | .functionAxisMismatch _ _ => "INVALID_MODULE_FUNCTION_AXIS"
  | .aggregationIdCollision _ => "AGGREGATION_ID_COLLISION"

/-- Whether the caller can mend the failure. -/
def isCallers : CompileError → Bool
  | .orderIndexOutOfRange _ _ => true
  | .invalidOrder _ => true
  | .functionAxisMismatch _ _ => true
  | .unknownFunction _ => false
  | .missingAggregationType _ => false
  | .aggregationIdCollision _ => false

/-- The text of a failure. -/
def message : CompileError → String
  | .orderIndexOutOfRange index available =>
      "Invalid value_axis index: " ++ Json.Number.integerText index ++
        ". The value axis has " ++ available.repr ++ " entries."
  | .invalidOrder error => "Invalid order clause: " ++ error.message
  | .unknownFunction name =>
      "Function '" ++ name ++ "' is not present in the catalog"
  | .missingAggregationType function =>
      "Function '" ++ function ++ "' has no aggregationType declared"
  | .functionAxisMismatch function axis =>
      "function '" ++ function ++ "' is not valid in '" ++ axis.name ++ "'"
  | .aggregationIdCollision id =>
      "Aggregation id '" ++ id ++
        "' is already used by a different sibling aggregation"

end CompileError

end ChartQuery
