import ChartQuery.Json.Number
import ChartQuery.Keyed

/-!
# JSON values

A value keeps the members of an object in order.  Nothing here forces their
keys to be distinct: a typed document is looked at as it is written, because
there a repetition is an error.

Equality of values is decided structurally; the order of members counts.
-/

namespace ChartQuery

open ChartQuery.Json

/-- A JSON value with its members in written order. -/
inductive Json where
  | null
  | bool (value : Bool)
  | number (value : Number)
  | string (text : String)
  | array (elements : List Json)
  | object (members : List (String × Json))

namespace Json

/-! ## Decidable equality -/

mutual
/-- Structural equality of values. -/
def decideEqual : (left right : Json) → Decidable (left = right)
  | .null, .null => isTrue rfl
  | .bool left, .bool right =>
      decidable_of_iff (left = right) (by simp)
  | .number left, .number right =>
      decidable_of_iff (left = right) (by simp)
  | .string left, .string right =>
      decidable_of_iff (left = right) (by simp)
  | .array left, .array right =>
      match decideEqualList left right with
      | isTrue equal => isTrue (congrArg _ equal)
      | isFalse different => isFalse (fun equal => different (by cases equal; rfl))
  | .object left, .object right =>
      match decideEqualMembers left right with
      | isTrue equal => isTrue (congrArg _ equal)
      | isFalse different => isFalse (fun equal => different (by cases equal; rfl))
  | .null, .bool _ | .null, .number _ | .null, .string _ | .null, .array _
  | .null, .object _ | .bool _, .null | .bool _, .number _
  | .bool _, .string _ | .bool _, .array _ | .bool _, .object _
  | .number _, .null | .number _, .bool _ | .number _, .string _
  | .number _, .array _ | .number _, .object _ | .string _, .null
  | .string _, .bool _ | .string _, .number _ | .string _, .array _
  | .string _, .object _ | .array _, .null | .array _, .bool _
  | .array _, .number _ | .array _, .string _ | .array _, .object _
  | .object _, .null | .object _, .bool _ | .object _, .number _
  | .object _, .string _ | .object _, .array _ => isFalse (by simp)

/-- Structural equality of element lists. -/
def decideEqualList : (left right : List Json) → Decidable (left = right)
  | [], [] => isTrue rfl
  | [], _ :: _ => isFalse (by simp)
  | _ :: _, [] => isFalse (by simp)
  | left :: leftRest, right :: rightRest =>
      match decideEqual left right, decideEqualList leftRest rightRest with
      | isTrue head, isTrue tail => isTrue (by rw [head, tail])
      | isFalse different, _ => isFalse (fun equal => different (by cases equal; rfl))
      | _, isFalse different => isFalse (fun equal => different (by cases equal; rfl))

/-- Structural equality of member lists. -/
def decideEqualMembers :
    (left right : List (String × Json)) → Decidable (left = right)
  | [], [] => isTrue rfl
  | [], _ :: _ => isFalse (by simp)
  | _ :: _, [] => isFalse (by simp)
  | (leftKey, left) :: leftRest, (rightKey, right) :: rightRest =>
      if key : leftKey = rightKey then
        match decideEqual left right, decideEqualMembers leftRest rightRest with
        | isTrue head, isTrue tail => isTrue (by rw [key, head, tail])
        | isFalse different, _ =>
            isFalse (fun equal => different (by cases equal; rfl))
        | _, isFalse different =>
            isFalse (fun equal => different (by cases equal; rfl))
      else isFalse (fun equal => key (by cases equal; rfl))
end

instance : DecidableEq Json := decideEqual

/-! ## Looking into a value -/

/-- Whether the value is `null`. -/
def isNull : Json → Bool
  | .null => true
  | _ => false

/-- Whether the value is a number. -/
def isNumber : Json → Bool
  | .number _ => true
  | _ => false

/-- Whether the value is a string. -/
def isString : Json → Bool
  | .string _ => true
  | _ => false

/-- The text of a string. -/
def asString? : Json → Option String
  | .string text => some text
  | _ => none

/-- The unsigned word that a number is. -/
def asUInt64? : Json → Option UInt64
  | .number value => value.toUInt64?
  | _ => none

/-- The signed word that a number is. -/
def asInt64? : Json → Option Int64
  | .number value => value.toInt64?
  | _ => none

/-- A number read as a float. -/
def asBinary64? : Json → Option Binary64
  | .number value => some value.toBinary64
  | _ => none

/-- The elements of an array. -/
def asArray? : Json → Option (List Json)
  | .array elements => some elements
  | _ => none

/-- The members of an object. -/
def asObject? : Json → Option (Keyed String Json)
  | .object members => some members
  | _ => none

/-- The member of an object under `key`; nothing for other values. -/
def member? (key : String) : Json → Option Json
  | .object members => Keyed.get? key members
  | _ => none

/-- An unsigned word as a value. -/
def ofUInt64 (word : UInt64) : Json := .number (.ofUInt64 word)

/-- A signed word as a value. -/
def ofInt64 (word : Int64) : Json := .number (.ofInt64 word)

/-- A list of strings as a value. -/
def ofStrings (texts : List String) : Json := .array (texts.map .string)

end Json

end ChartQuery
