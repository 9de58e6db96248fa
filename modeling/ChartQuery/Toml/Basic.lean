import ChartQuery.Binary64.Basic
import ChartQuery.Keyed

/-!
# TOML values

Values of a configuration file.  A float may be infinite or no number at all,
which is kept as the absence of a finite number.  A date or time keeps its
normal text only: nothing here computes with it.
-/

namespace ChartQuery

/-- A TOML value. -/
inductive Toml where
  | string (text : String)
  | integer (value : Int64)
  /-- A finite float, or none for infinities and not-a-number. -/
  | float (value : Option Binary64)
  | boolean (value : Bool)
  | dateTime (text : String)
  | array (elements : List Toml)
  | table (members : List (String × Toml))

namespace Toml

/-- The text of a string. -/
def asText? : Toml → Option String
  | .string text => some text
  | _ => none

/-- The value of an integer. -/
def asInt64? : Toml → Option Int64
  | .integer value => some value
  | _ => none

/-- The value of an integer that is not negative. -/
def asUInt64? : Toml → Option UInt64
  | .integer value => if 0 ≤ value then some value.toUInt64 else none
  | _ => none

end Toml

end ChartQuery
