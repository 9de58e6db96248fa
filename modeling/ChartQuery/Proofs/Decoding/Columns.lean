import ChartQuery.Proofs.Compilation.InnermostSlots
import ChartQuery.Proofs.Compilation.Nesting
import ChartQuery.Proofs.Decoding.Names
import ChartQuery.Slot.Levels

/-!
# Columns of decoded rows

The columns for the groupings of a chart and for positions of its value axis
have different names.  A slot map holds value slots on any level; in a compiled
chart all of them are on the innermost level, and on the way there every level
has a single grouping.
-/

namespace ChartQuery

/-! ## Names of columns -/

/-- A column for each grouping and one for each position do not collide. -/
theorem nodup_columns (count : Nat) {positions : List Nat}
    (distinct : positions.Nodup) :
    ((List.range count).map Axis.main.label ++
      positions.map Axis.value.label).Nodup := by
  rw [List.nodup_append]
  refine ⟨?_, ?_, ?_⟩
  · exact List.nodup_range.map (fun _ _ same => Axis.label_inj.mp same)
  · exact distinct.map (fun _ _ same => Axis.label_inj.mp same)
  · intro left leftMember right rightMember
    rcases List.mem_map.mp leftMember with ⟨depth, _, rfl⟩
    rcases List.mem_map.mp rightMember with ⟨position, _, rfl⟩
    exact Axis.label_main_ne_value depth position

/-! ## Value slots of a slot map -/

mutual
/-- The value slots at a slot and below it, with identifiers and positions. -/
def Slot.held (id : String) : Slot → List (String × Nat)
  | .at .value position below => (id, position) :: Slots.held below
  | .at .main _ below => Slots.held below

/-- The value slots that a slot map holds on any level. -/
def Slots.held : List (String × Slot) → List (String × Nat)
  | [] => []
  | (id, slot) :: rest => slot.held id ++ Slots.held rest
end

/-- The identifiers and positions of the slots of one level. -/
def Slots.places (slots : Slots) : List (String × Nat) :=
  slots.map (fun entry => (entry.1, entry.2.position))

/-- Slots that are all on the value axis are a level by themselves. -/
theorem Slots.levels_of_values {slots : Slots}
    (only : ∀ id slot, (id, slot) ∈ slots →
      ∃ position, slot = .value position) :
    Slots.levels slots = .innermost slots.places ∧
      Slots.held slots = slots.places := by
  have parts : Slots.values slots = slots.places ∧
      Slots.lastGrouping slots = none ∧ Slots.held slots = slots.places := by
    induction slots with
    | nil => exact ⟨rfl, rfl, rfl⟩
    | cons entry rest ih =>
        rcases entry with ⟨id, slot⟩
        rcases only id slot List.mem_cons_self with ⟨position, rfl⟩
        rcases ih
            (fun other found member =>
            only other found (List.mem_cons_of_mem _ member)) with
          ⟨values, grouping, held⟩
        refine ⟨?_, ?_, ?_⟩
        · simp [Slots.values, Slot.value, Slot.axis, Slot.position,
            Slots.places, values]
        · simp [Slots.lastGrouping, grouping, Slot.value, Slot.axis]
        · simp [Slots.held, Slot.held, Slot.value, Slot.position,
            Slots.places, held]
  rcases parts with ⟨values, grouping, held⟩
  exact ⟨by rw [Slots.levels, values, grouping, Slots.level], held⟩

section Compiled

variable {settings : CompilerSettings} {measures : List Measure}
  {firstMetric depth : Nat} {groupings : List Grouping}
  {aggregations : Aggregations} {slots : Slots}

theorem values_innermostSlots :
    ∀ id slot, (id, slot) ∈ innermostSlots firstMetric measures →
      ∃ position, slot = .value position := by
  intro id slot member
  rcases mem_innermostSlots member with ⟨position, _, _, _, rfl⟩
  exact ⟨position, rfl⟩

/-- The value slots of nested groupings are those of the innermost level. -/
theorem held_nest
    (nested : nest settings measures firstMetric depth groupings =
      .ok (aggregations, slots)) :
    Slots.held slots = (innermostSlots firstMetric measures).places := by
  induction groupings generalizing depth aggregations slots with
  | nil =>
      cases nested
      exact (Slots.levels_of_values values_innermostSlots).2
  | cons grouping rest ih =>
      rcases nest_cons_eq_ok_iff.mp nested with
        ⟨_, inner, _, _, deeper, _, _, rfl⟩
      rw [← ih deeper]
      simp [Slots.held, Slot.held, Slot.main]

/-- Different value slots are at different positions. -/
theorem nodup_positions_places (firstMetric : Nat) (measures : List Measure) :
    ((innermostSlots firstMetric measures).places.map Prod.snd).Nodup := by
  rw [Slots.places, List.map_map]
  exact nodup_positions_innermostSlots firstMetric measures

end Compiled

end ChartQuery
