import ChartQuery.Proofs.Json.Record
import ChartQuery.Slot.Document

/-!
# Slot maps that are read back

A document of a slot map is read as the slot map that was written if it can
tell all of it: no level repeats an identifier, and every position is a 64-bit
word.  Everything else is kept by the document, also the order of siblings.
-/

namespace ChartQuery

namespace Slot

mutual
/-- A slot that its document can tell. -/
def Storable : Slot → Prop
  | .at _ position below => position < UInt64.size ∧ StorableSiblings below

/-- Slots with different identifiers, each of which its document can tell. -/
def StorableSiblings : List (String × Slot) → Prop
  | [] => True
  | (id, slot) :: rest =>
      id ∉ Keyed.keys rest ∧ slot.Storable ∧ StorableSiblings rest
end

theorem storableSiblings_iff {slots : Slots} :
    StorableSiblings slots ↔
      Keyed.Distinct slots ∧ ∀ entry ∈ slots, entry.2.Storable := by
  induction slots with
  | nil => simp [StorableSiblings, Keyed.Distinct, Keyed.keys]
  | cons entry rest ih =>
      have distinct : Keyed.Distinct (entry :: rest) ↔
          entry.1 ∉ Keyed.keys rest ∧ Keyed.Distinct rest :=
        List.nodup_cons
      rw [StorableSiblings, ih, distinct, List.forall_mem_cons]
      tauto

/-! ## One slot -/

/-- The members that a slot is written with, given those of its children. -/
def members (axis : Axis) (position : Nat) (below : List (String × Json)) :
    List (String × Json) :=
  [("axisType", .string axis.name),
    ("axisIndex", .ofUInt64 (UInt64.ofNat position))] ++
    childrenMember below

/-- The members of a slot tell where it is. -/
theorem placeOf?_members (axis : Axis) {position : Nat}
    (fits : position < UInt64.size) (below : List (String × Json)) :
    placeOf? (.object (members axis position below)) =
      some (axis, position) := by
  have ordered :
      (Keyed.keys (members axis position below)).Sublist declared := by
    cases below <;>
      simp [members, childrenMember, Keyed.keys, declared]
  have written := Json.record?_object (by decide) ordered
  have axisType :
      Json.required? (members axis position below) "axisType"
          (Json.choice? Axis.ofName?) =
        some axis :=
    Axis.ofName?_name axis
  have axisIndex :
      Json.required? (members axis position below) "axisIndex"
          Json.asUInt64? =
        some (UInt64.ofNat position) :=
    Json.asUInt64?_ofUInt64 _
  simp [placeOf?, written, axisType, axisIndex,
    UInt64.toNat_ofNat_of_lt' fits]

/-- The children of a slot are the table in its last member. -/
theorem ofMembers?_members (axis : Axis) (position : Nat)
    (below : List (String × Json)) :
    ofMembers? (members axis position below) = tableOf? (.object below) := by
  cases below with
  | nil => rfl
  | cons entry rest => simp [ofMembers?, members, childrenMember]

/-! ## Trees of slots -/

mutual
-- Each function is undone by the reader of the same part of a document.
theorem ofJson?_toJson :
    (slot : Slot) → slot.Storable → ofJson? slot.toJson = some slot
  | .at axis position below, ⟨fits, stored⟩ => by
      have written : toJson (.at axis position below) =
          .object (members axis position (membersToJson below)) := rfl
      rw [written, ofJson?, placeOf?_members axis fits, ofMembers?_members,
        tableOf?_membersToJson below stored]
      rfl

theorem tableOf?_membersToJson :
    (slots : List (String × Slot)) → StorableSiblings slots →
      tableOf? (.object (membersToJson slots)) = some slots
  | slots, stored => by
      rw [tableOf?, entriesOf?_membersToJson slots stored, Option.map_some,
        Keyed.ofList_of_distinct (storableSiblings_iff.mp stored).1]

theorem entriesOf?_membersToJson :
    (slots : List (String × Slot)) → StorableSiblings slots →
      entriesOf? (membersToJson slots) = some slots
  | [], _ => rfl
  | (id, slot) :: rest, ⟨_, first, later⟩ => by
      simp [membersToJson, entriesOf?, ofJson?_toJson slot first,
        entriesOf?_membersToJson rest later]
end

end Slot

theorem Slots.ofJson?_toJson {slots : Slots}
    (stored : Slot.StorableSiblings slots) :
    Slots.ofJson? slots.toJson = some slots :=
  Slot.tableOf?_membersToJson slots stored

end ChartQuery
