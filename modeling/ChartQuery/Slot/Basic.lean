import ChartQuery.Axis
import ChartQuery.Keyed

/-!
# Slots

A slot map records which position of which axis an identifier of a request
stands for, level by level, so that a response can be read back.  The
identifier `count` is kept for the document count of the enclosing group.

Equality of slots is structural; the order of siblings counts.
-/

namespace ChartQuery

/-- What an identifier stands for, and the slots below it. -/
inductive Slot where
  | at (axis : Axis) (position : Nat) (below : List (String × Slot))

/-- Slots by identifier. -/
abbrev Slots := Keyed String Slot

/-- The identifier of a value that is the count of the enclosing group. -/
def countId : String := "count"

namespace Slot

/-- The axis that a slot is on. -/
def axis : Slot → Axis
  | .at axis _ _ => axis

/-- The position on the axis. -/
def position : Slot → Nat
  | .at _ position _ => position

/-- The slots below a slot. -/
def children : Slot → Slots
  | .at _ _ children => children

/-- A slot for a grouping. -/
def main (position : Nat) (below : Slots) : Slot := .at .main position below

/-- A slot for a metric. -/
def value (position : Nat) : Slot := .at .value position []

mutual
/-- Structural equality of slots. -/
def decideEqual : (left right : Slot) → Decidable (left = right)
  | .at leftAxis leftPosition left, .at rightAxis rightPosition right =>
      if place : leftAxis = rightAxis ∧ leftPosition = rightPosition then
        match decideEqualSiblings left right with
        | isTrue equal => isTrue (by rw [place.1, place.2, equal])
        | isFalse different => isFalse (fun equal => different (by cases equal; rfl))
      else isFalse (fun equal => place (by cases equal; exact ⟨rfl, rfl⟩))

/-- Structural equality of siblings. -/
def decideEqualSiblings :
    (left right : List (String × Slot)) → Decidable (left = right)
  | [], [] => isTrue rfl
  | [], _ :: _ => isFalse (by simp)
  | _ :: _, [] => isFalse (by simp)
  | (leftId, left) :: leftRest, (rightId, right) :: rightRest =>
      if id : leftId = rightId then
        match decideEqual left right, decideEqualSiblings leftRest rightRest with
        | isTrue head, isTrue tail => isTrue (by rw [id, head, tail])
        | isFalse different, _ =>
            isFalse (fun equal => different (by cases equal; rfl))
        | _, isFalse different =>
            isFalse (fun equal => different (by cases equal; rfl))
      else isFalse (fun equal => id (by cases equal; rfl))
end

instance : DecidableEq Slot := decideEqual

end Slot

end ChartQuery
