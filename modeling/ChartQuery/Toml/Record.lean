import ChartQuery.Json.Basic
import ChartQuery.Toml.Basic

/-!
# Typed TOML values

A typed structure is a table with declared members; others are left alone.  It
may also be written as an array of its members in declared order; elements
behind the last member are not looked at, but the array must be long enough for
the members without a default.  A date or time is a structure that has none of
the declared members.  A free-form value is read as JSON, where a
float that is not finite becomes `null`.
-/

namespace ChartQuery.Toml

/-- The members that a structure writes; an array has at least `least` of them. -/
def record? (declared : List String) (least : Nat) :
    Toml → Option (Keyed String Toml)
  | .table members => some (members.filter (fun member => member.1 ∈ declared))
  | .array elements =>
      if least ≤ elements.length then some (declared.zip elements) else none
  | .dateTime _ => some []
  | _ => none

/-- A member that has to be there. -/
def required? {α : Type} (fields : Keyed String Toml) (name : String)
    (read : Toml → Option α) : Option α :=
  (Keyed.get? name fields).bind read

/-- A member that may be left out. -/
def defaulted? {α : Type} (fields : Keyed String Toml) (name : String)
    (default : α) (read : Toml → Option α) : Option α :=
  match Keyed.get? name fields with
  | none => some default
  | some value => read value

/-- A member without a default that may be left out. -/
def optional? {α : Type} (fields : Keyed String Toml) (name : String)
    (read : Toml → Option α) : Option (Option α) :=
  defaulted? fields name none (fun value => (read value).map some)

/-- The member that holds the text of a date or time in free-form values. -/
def dateTimeMember : String := "$__toml_private_datetime"

mutual
/-- A value as JSON. -/
def toJson : Toml → Json
  | .string text => .string text
  | .integer value => .ofInt64 value
  | .float (some value) => .number (.float value)
  | .float none => .null
  | .boolean value => .bool value
  | .dateTime text => .object [(dateTimeMember, .string text)]
  | .array elements => .array (elementsToJson elements)
  | .table members => .object (membersToJson members)

/-- Elements as JSON. -/
def elementsToJson : List Toml → List Json
  | [] => []
  | element :: rest => element.toJson :: elementsToJson rest

/-- Members as JSON. -/
def membersToJson : List (String × Toml) → List (String × Json)
  | [] => []
  | (key, value) :: rest => (key, value.toJson) :: membersToJson rest
end

mutual
/-- JSON as a value; there is none for `null` and for integers past 63 bits. -/
def ofJson? : Json → Option Toml
  | .null => none
  | .bool value => some (.boolean value)
  | .number (.integer value _) =>
      if value < 9223372036854775808 then some (.integer (Int64.ofInt value)) else none
  | .number (.float value) => some (.float (some value))
  | .string text => some (.string text)
  | .array elements => (elementsOfJson? elements).map .array
  | .object members => (membersOfJson? members).map .table

/-- Elements as values. -/
def elementsOfJson? : List Json → Option (List Toml)
  | [] => some []
  | element :: rest => do
      let first ← ofJson? element
      let more ← elementsOfJson? rest
      return first :: more

/-- Members as values. -/
def membersOfJson? : List (String × Json) → Option (List (String × Toml))
  | [] => some []
  | (key, value) :: rest => do
      let first ← ofJson? value
      let more ← membersOfJson? rest
      return (key, first) :: more
end

end ChartQuery.Toml
