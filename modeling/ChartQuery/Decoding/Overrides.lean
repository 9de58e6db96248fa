import ChartQuery.Axis
import ChartQuery.Json.Printer
import ChartQuery.Json.Reader
import ChartQuery.Json.Record

/-!
# Overrides of decoded rows

The caller may give columns titles and replace the keys of groups by other
values, per axis and position.  A key is looked up by its text, so that `100`
and `100.0` are the same key.
-/

namespace ChartQuery

/-- Titles of columns by axis and position. -/
abbrev TitleOverrides := Keyed Axis (Keyed Nat String)

/-- Replacements by axis, position and text of the key. -/
abbrev ValueOverrides := Keyed Axis (Keyed Nat (Keyed String Json))

/-- The titles and replacements of one decoding. -/
structure Overrides where
  titles : TitleOverrides
  values : ValueOverrides
deriving DecidableEq

/--
The text that a key is looked up by: a string is its own text, a float without
a fraction below `10^15` is written as an integer, all else is JSON text.
-/
def Json.keyText : Json → String
  | .string text => text
  | .number (.float value) =>
      match value.toInt? with
      | some whole =>
          if whole.natAbs < Nat.pow 10 15 then Json.Number.integerText whole
          else Json.Number.floatText value
      | none => Json.Number.floatText value
  | value => value.compact

namespace Overrides

/-- No title and no replacement. -/
def none : Overrides := ⟨[], []⟩

/-- What is said of a position of an axis. -/
def lookup? {α : Type} (axis : Axis) (position : Nat)
    (table : Keyed Axis (Keyed Nat α)) : Option α :=
  (Keyed.get? axis table).bind (Keyed.get? position)

/-- The name of a column: its title, or else the axis and the position. -/
def column (overrides : Overrides) (axis : Axis) (position : Nat) : String :=
  (lookup? axis position overrides.titles).getD (axis.column position)

/-- The cell for a key: its replacement, or else the key itself. -/
def keyCell (overrides : Overrides) (axis : Axis) (position : Nat)
    (key : Json) : Json :=
  ((lookup? axis position overrides.values).bind
    (Keyed.get? key.keyText)).getD key

end Overrides

/-! ## Documents -/

/-- A position as a key: a decimal 64-bit word without sign or leading zeros. -/
def axisPosition? (key : String) : Option Nat :=
  match key.toList with
  | '0' :: _ :: _ => none
  | digits => (Text.natural? digits).filter (fun value => value < Nat.pow 2 64)

/-- Read an object whose keys all have a meaning; the last of equal keys wins. -/
def keyedBy? {κ α : Type} [DecidableEq κ] (key? : String → Option κ)
    (read : Json → Option α) : Json → Option (Keyed κ α)
  | .object members =>
      (members.mapM (fun (name, value) => do
        let key ← key? name
        let found ← read value
        return (key, found))).map Keyed.ofList
  | _ => none

/-- Read a table by axis and position. -/
def byAxisPosition? {α : Type} (read : Json → Option α) :
    Json → Option (Keyed Axis (Keyed Nat α)) :=
  keyedBy? Axis.ofName? (keyedBy? axisPosition? read)

/--
The plan by levels: axes, positions and keys, and free-form values below.  A
position is read as a number, so its digits are written without escapes.
-/
def overridesPlan : Json.Plan Nat where
  member level _ := some (level + 1)
  element level _ := level + 1
  isFree level := 3 ≤ level
  isBare level := level = 1

/-- Read titles from their text. -/
def TitleOverrides.read? (text : String) : Option TitleOverrides :=
  (Json.readBy? overridesPlan 0 text).bind (byAxisPosition? Json.asString?)

/-- Read replacements from their text. -/
def ValueOverrides.read? (text : String) : Option ValueOverrides :=
  (Json.readBy? overridesPlan 0 text).bind (byAxisPosition? (Json.table? some))

end ChartQuery
