import ChartQuery.Chart.Basic
import ChartQuery.Json.Printer

/-!
# Sort orders

The `order` option of a grouping is an object with two optional members.
`field` is `_count` or `value_axis.N` for a position `N` of the value axis,
`direction` is `asc` or `desc`; they default to `_count` and `desc`.  The
position is any 64-bit integer here: whether the axis reaches it is not a
question of the option.  Of two bad members the field is reported.
-/

namespace ChartQuery

/-- Ascending or descending. -/
inductive SortDirection where
  | asc
  | desc
deriving DecidableEq

namespace SortDirection

/-- The word for a direction. -/
def name : SortDirection → String
  | .asc => "asc"
  | .desc => "desc"

/-- The direction of a word. -/
def ofName? (text : String) : Option SortDirection :=
  if text = "asc" then some .asc
  else if text = "desc" then some .desc
  else none

@[simp]
theorem ofName?_name (direction : SortDirection) :
    ofName? direction.name = some direction := by
  cases direction <;> decide

end SortDirection

/-- What groups are sorted by. -/
inductive OrderTarget where
  | docCount
  | valueAxis (position : Int)
deriving DecidableEq

/-- A parsed sort order. -/
structure Order where
  target : OrderTarget
  direction : SortDirection
deriving DecidableEq

/-- Why an `order` option is no sort order. -/
inductive OrderError where
  | notAnObject (value : Json)
  | unknownField (field : String)
  | fieldNotAString (value : Json)
  | unknownDirection (value : Json)
deriving DecidableEq

/-- The text of an order error. -/
def OrderError.message : OrderError → String
  | .notAnObject value => "order must be an object, got " ++ value.compact
  | .unknownField field =>
      "order field must be '_count' or 'value_axis.<index>', got '" ++ field ++ "'"
  | .fieldNotAString value => "order field must be a string, got " ++ value.compact
  | .unknownDirection value =>
      "order direction must be 'asc' or 'desc', got " ++ value.compact

namespace Order

/-- What a position on the value axis is written after. -/
def axisMark : List Char := "value_axis.".toList

/-- The text after the mark, if the mark is in front. -/
def afterMark? : List Char → List Char → Option (List Char)
  | [], rest => some rest
  | _ :: _, [] => none
  | expected :: mark, char :: rest =>
      if char = expected then afterMark? mark rest else none

/-- The position that a field names. -/
def position? (field : String) : Option Int :=
  (afterMark? axisMark field.toList).bind (fun digits =>
    Text.int64? (String.ofList digits))

/-- The target of the `field` member. -/
def targetOf : Option Json → Except OrderError OrderTarget
  | none => .ok .docCount
  | some .null => .ok .docCount
  | some (.string field) =>
      if field = "_count" then .ok .docCount
      else
        match position? field with
        | some position => .ok (.valueAxis position)
        | none => .error (.unknownField field)
  | some other => .error (.fieldNotAString other)

/-- The direction of the `direction` member. -/
def directionOf : Option Json → Except OrderError SortDirection
  | none => .ok .desc
  | some .null => .ok .desc
  | some (.string name) =>
      match SortDirection.ofName? name with
      | some direction => .ok direction
      | none => .error (.unknownDirection (.string name))
  | some other => .error (.unknownDirection other)

/-- Parse the value of an `order` option. -/
def parse : Json → Except OrderError Order
  | .object members => do
      let target ← targetOf (Keyed.get? "field" members)
      let direction ← directionOf (Keyed.get? "direction" members)
      return ⟨target, direction⟩
  | other => .error (.notAnObject other)

end Order

/-- The `order` option of an entry, if it is there and not `null`. -/
def AxisEntry.order? (entry : AxisEntry) : Option (Except OrderError Order) :=
  (entry.option? "order").map Order.parse

end ChartQuery
