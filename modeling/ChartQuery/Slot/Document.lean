import ChartQuery.Json.Reader
import ChartQuery.Json.Record
import ChartQuery.Slot.Basic

/-!
# Slot documents

The JSON form of slot maps.  A slot is written with its axis, its position and,
if there are any, the slots below it; reading also takes the array form of a
slot.  A repeated identifier keeps its first place and its last slot.
-/

namespace ChartQuery

namespace Slot

/-- The members of a slot in declared order. -/
def declared : List String := ["axisType", "axisIndex", "children"]

/-- The axis and the position of a slot. -/
def placeOf? (slot : Json) : Option (Axis × Nat) := do
  let fields ← Json.record? declared slot
  let axis ← Json.required? fields "axisType" (Json.choice? Axis.ofName?)
  let position ← Json.required? fields "axisIndex" Json.asUInt64?
  return (axis, position.toNat)

mutual
/-- Read a slot. -/
def ofJson? : Json → Option Slot
  | .object members => do
      let (axis, position) ← placeOf? (.object members)
      let below ← ofMembers? members
      return .at axis position below
  | .array [axis, position] => do
      let (axis, position) ← placeOf? (.array [axis, position])
      return .at axis position []
  | .array [axis, position, children] => do
      let (axis, position) ← placeOf? (.array [axis, position, children])
      let below ← tableOf? children
      return .at axis position below
  | _ => none

/-- The slots below a slot, from its members. -/
def ofMembers? : List (String × Json) → Option Slots
  | [] => some []
  | (key, value) :: rest =>
      if key = "children" then tableOf? value else ofMembers? rest

/-- Read a slot map. -/
def tableOf? : Json → Option Slots
  | .object members => (entriesOf? members).map Keyed.ofList
  | _ => none

/-- Read slots one after the other. -/
def entriesOf? : List (String × Json) → Option (List (String × Slot))
  | [] => some []
  | (id, value) :: rest => do
      let slot ← ofJson? value
      let more ← entriesOf? rest
      return (id, slot) :: more
end

/-- The `children` member, left out when there are none. -/
def childrenMember (members : List (String × Json)) : List (String × Json) :=
  if members.isEmpty then [] else [("children", .object members)]

mutual
/-- Write a slot. -/
def toJson : Slot → Json
  | .at axis position below =>
      .object
        ([("axisType", .string axis.name),
          ("axisIndex", .ofUInt64 (UInt64.ofNat position))] ++
          childrenMember (membersToJson below))

/-- Write slots as the members of an object. -/
def membersToJson : List (String × Slot) → List (String × Json)
  | [] => []
  | (id, slot) :: rest => (id, slot.toJson) :: membersToJson rest
end

end Slot

namespace Slots

/-- Read a slot map. -/
def ofJson? (value : Json) : Option Slots := Slot.tableOf? value

/-- Write a slot map. -/
def toJson (slots : Slots) : Json := .object (Slot.membersToJson slots)

/-- Where a walk through a slot map document is. -/
inductive Place where
  | table
  | slot
  | elsewhere
deriving DecidableEq

/-- Of a slot, only the declared members are read. -/
def member (place : Place) (key : String) : Option Place :=
  match place with
  | .table => some .slot
  | .slot =>
      if key = "children" then some .table
      else if key ∈ Slot.declared then some .elsewhere
      else none
  | .elsewhere => some .elsewhere

/-- In the array form of a slot the third element is a slot map. -/
def element (place : Place) (position : Nat) : Place :=
  match place with
  | .slot => if position = 2 then .table else .elsewhere
  | _ => .elsewhere

/-- The plan for a slot map document, which has no free-form part. -/
def plan : Json.Plan Place where
  member
  element
  isFree _ := false

/-- Read a slot map from its text. -/
def read? (text : String) : Option Slots :=
  (Json.readBy? plan .table text).bind ofJson?

end Slots

end ChartQuery
