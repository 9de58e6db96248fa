/-!
# Axes

A chart has two axes.  The main axis holds the groupings, one nested in the
other; the value axis holds the metrics computed inside the innermost group.
-/

namespace ChartQuery

/-- One of the two axes of a chart. -/
inductive Axis where
  | main
  | value
deriving DecidableEq

namespace Axis

/-- Both axes in the order in which they are checked. -/
def both : List Axis := [.main, .value]

theorem mem_both (axis : Axis) : axis ∈ both := by
  cases axis <;> decide

/-- The name of an axis in documents and messages. -/
def name : Axis → String
  | .main => "main_axis"
  | .value => "value_axis"

/-- The axis of a name. -/
def ofName? (text : String) : Option Axis :=
  if text = "main_axis" then some .main
  else if text = "value_axis" then some .value
  else none

/-- The short word for the role of a function on this axis. -/
def role : Axis → String
  | .main => "main"
  | .value => "value"

/-- The axis of a role word. -/
def ofRole? (text : String) : Option Axis :=
  if text = "main" then some .main
  else if text = "value" then some .value
  else none

@[simp]
theorem ofName?_name (axis : Axis) : ofName? axis.name = some axis := by
  cases axis <;> decide

@[simp]
theorem ofRole?_role (axis : Axis) : ofRole? axis.role = some axis := by
  cases axis <;> decide

/-- The default name of a column: the axis and the position on it. -/
def column (axis : Axis) (position : Nat) : String :=
  axis.name ++ "." ++ position.repr

end Axis

end ChartQuery
