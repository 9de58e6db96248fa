import ChartQuery.Slot.Basic

/-!
# Levels of a slot map

`Slots.levels` reads a slot map as the chain of its levels, from the root
inwards.  A level has its value slots in order and at most one grouping, the
last main slot of the level; any other main slot is not looked at.
-/

namespace ChartQuery

/-- The levels of a slot map from the root inwards. -/
inductive Levels where
  /-- The innermost level: value slots only. -/
  | innermost (values : List (String × Nat))
  /-- Value slots, and a grouping with what is below it. -/
  | grouped (values : List (String × Nat)) (id : String) (position : Nat)
      (below : Levels)
deriving DecidableEq

namespace Slots

/-- The value slots of a level, with their positions, in order. -/
def values : List (String × Slot) → List (String × Nat)
  | [] => []
  | (id, slot) :: rest =>
      match slot.axis with
      | .value => (id, slot.position) :: values rest
      | .main => values rest

/-- A level from its value slots and its grouping. -/
def level (values : List (String × Nat)) :
    Option (String × Nat × Levels) → Levels
  | none => .innermost values
  | some (id, position, below) => .grouped values id position below

mutual
/-- The levels below a slot. -/
def levelsBelow : Slot → Levels
  | .at _ _ slots => level (values slots) (lastGrouping slots)

/-- The last main slot of a level with the levels below it. -/
def lastGrouping : List (String × Slot) → Option (String × Nat × Levels)
  | [] => none
  | (id, slot) :: rest =>
      match lastGrouping rest with
      | some later => some later
      | none =>
          match slot.axis with
          | .main => some (id, slot.position, levelsBelow slot)
          | .value => none
end

/-- The levels of a slot map. -/
def levels (slots : Slots) : Levels := level (values slots) (lastGrouping slots)

end Slots

end ChartQuery
