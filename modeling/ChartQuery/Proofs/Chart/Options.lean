import Mathlib
import ChartQuery.Chart.Order

/-!
# Options of an entry

The readers of `AxisEntry` take an option that is `null` for one that is left
out, and one of another form as well.  These lemmas say what the written value
has to be for a reader to find something.
-/

namespace ChartQuery

namespace AxisEntry

variable {entry : AxisEntry} {key : String}

theorem option?_eq_some_iff {value : Json} :
    entry.option? key = some value ↔
      Keyed.get? key entry.options = some value ∧ value ≠ .null := by
  have proper : (!value.isNull) = true ↔ value ≠ .null := by
    cases value <;> simp [Json.isNull]
  rw [option?, Option.filter_eq_some_iff, proper]

theorem option?_eq_none_iff :
    entry.option? key = none ↔
      Keyed.get? key entry.options = none ∨
        Keyed.get? key entry.options = some .null := by
  unfold option?
  cases Keyed.get? key entry.options with
  | none => simp
  | some value => cases value <;> simp [Json.isNull]

/-! ## Sort orders -/

/-- The entry has an `order` option, and it reads as this sort order. -/
def Asks (entry : AxisEntry) (order : Order) : Prop :=
  ∃ value, Keyed.get? "order" entry.options = some value ∧
    Order.parse value = .ok order

theorem order?_eq_none_iff :
    entry.order? = none ↔
      Keyed.get? "order" entry.options = none ∨
        Keyed.get? "order" entry.options = some .null := by
  rw [order?, Option.map_eq_none_iff, option?_eq_none_iff]

theorem order?_eq_ok_iff {order : Order} :
    entry.order? = some (.ok order) ↔ entry.Asks order := by
  rw [order?, Option.map_eq_some_iff]
  constructor
  · rintro ⟨value, found, parsed⟩
    exact ⟨value, (option?_eq_some_iff.mp found).1, parsed⟩
  · rintro ⟨value, written, parsed⟩
    -- `null` is no sort order, so a value that parses is not taken for left out.
    have proper : value ≠ .null := by
      rintro rfl
      cases parsed
    exact ⟨value, option?_eq_some_iff.mpr ⟨written, proper⟩, parsed⟩

end AxisEntry

end ChartQuery
