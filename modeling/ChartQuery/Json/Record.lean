import ChartQuery.Json.Basic

/-!
# Typed documents

A typed document is an object with declared members, each written at most once;
members that are not declared are left alone.  It may also be written as an
array of its members in declared order, where the tail may be missing but
nothing may be added.  A table is an object whose members are all entries; a
repeated key keeps its first place and its last value.
-/

namespace ChartQuery.Json

/-- The declared members that a document writes, each at most once. -/
def record? (declared : List String) : Json → Option (Keyed String Json)
  | .object members =>
      let found := members.filter (fun member => member.1 ∈ declared)
      if Keyed.Distinct found then some found else none
  | .array elements =>
      if elements.length ≤ declared.length then some (declared.zip elements)
      else none
  | _ => none

/-- A member that has to be there. -/
def required? {α : Type} (fields : Keyed String Json) (name : String)
    (read : Json → Option α) : Option α :=
  (Keyed.get? name fields).bind read

/-- A member that may be absent or `null`. -/
def optional? {α : Type} (fields : Keyed String Json) (name : String)
    (read : Json → Option α) : Option (Option α) :=
  match Keyed.get? name fields with
  | none => some none
  | some .null => some none
  | some value => (read value).map some

/-- A member that may be absent, but not `null` unless its reading takes it. -/
def defaulted? {α : Type} (fields : Keyed String Json) (name : String)
    (default : α) (read : Json → Option α) : Option α :=
  match Keyed.get? name fields with
  | none => some default
  | some value => read value

/-- Read every value of a list of members. -/
def entries? {α : Type} (read : Json → Option α) :
    List (String × Json) → Option (List (String × α))
  | [] => some []
  | (key, value) :: rest => do
      let found ← read value
      let more ← entries? read rest
      return (key, found) :: more

/-- A table of entries that are all read alike. -/
def table? {α : Type} (read : Json → Option α) : Json → Option (Keyed String α)
  | .object members => (entries? read members).map Keyed.ofList
  | _ => none

/-- Every element of an array, all read alike. -/
def list? {α : Type} (read : Json → Option α) : Json → Option (List α)
  | .array elements => elements.mapM read
  | _ => none

/-- A choice by name, written as a string or as an object with a `null` member. -/
def choice? {α : Type} (named : String → Option α) : Json → Option α
  | .string name => named name
  | .object [(name, .null)] => named name
  | _ => none

end ChartQuery.Json
