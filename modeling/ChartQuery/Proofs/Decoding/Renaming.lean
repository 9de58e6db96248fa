import ChartQuery.Proofs.Decoding.Paths
import ChartQuery.Proofs.Decoding.Steps
import ChartQuery.Proofs.Sample

/-!
# Overrides rename columns and replace keys

Decoding with overrides is compared with decoding without.  Both runs meet the
same cells in the same order, and each run writes them in its own way into its
own row: `RawCell` is a cell before it is written, `Overrides.row` the row that
comes of a list of cells.  So the two runs fail together and give rows side by
side.

Rows that are written from the same cells need not have the same columns: two
positions under one title share a column, and a cell is lost.  Where different
positions of the slot map have different names, this cannot happen, and each
cell of a row stands in the place of the plain one.
-/

namespace ChartQuery

/-! ## Rows of cells -/

namespace Overrides

/-- The row that is written from some cells, one after the other. -/
def row (overrides : Overrides) (cells : List RawCell) : Row :=
  Keyed.ofList (cells.map overrides.write)

theorem row_append (overrides : Overrides) (cells : List RawCell)
    (cell : RawCell) :
    overrides.row (cells ++ [cell]) =
      Keyed.insert (overrides.write cell).1 (overrides.write cell).2
        (overrides.row cells) := by
  simp [row, Keyed.ofList]

/-- Two rows are written from the same cells at some positions. -/
def SameCells (overrides : Overrides) (places : List (Axis × Nat))
    (plain row : Row) : Prop :=
  ∃ cells written, (∀ cell ∈ cells, RawCell.place cell ∈ places) ∧
    List.Forall₂ overrides.Writes cells written ∧
    plain = Keyed.ofList (cells.map RawCell.plain) ∧
    row = Keyed.ofList written

theorem sameCells_iff {overrides : Overrides} {places : List (Axis × Nat)}
    {plain row : Row} :
    overrides.SameCells places plain row ↔
      ∃ cells : List RawCell, (∀ cell ∈ cells, cell.place ∈ places) ∧
        plain = Overrides.none.row cells ∧ row = overrides.row cells := by
  have bare : Overrides.none.write = RawCell.plain := funext write_none
  unfold SameCells Overrides.row
  rw [bare]
  constructor
  · rintro ⟨cells, written, inside, writes, rfl, rfl⟩
    have same : written = cells.map overrides.write := by
      induction writes with
      | nil => rfl
      | cons here _ ih =>
          have later := ih fun other member =>
            inside other (List.mem_cons_of_mem _ member)
          rw [List.map_cons, ← writes_iff.mp here, ← later]
    exact ⟨cells, inside, rfl, congrArg Keyed.ofList same⟩
  · rintro ⟨cells, inside, rfl, rfl⟩
    refine ⟨cells, cells.map overrides.write, inside, ?_, rfl, rfl⟩
    rw [List.forall₂_map_right_iff, List.forall₂_same]
    exact fun cell _ => writes_iff.mpr rfl

end Overrides

/-! ## Positions of a slot map -/

mutual
/-- The positions of a slot and of all slots below it. -/
def Slot.positions : Slot → List (Axis × Nat)
  | .at axis position below => (axis, position) :: Slots.positions below

/-- The positions that occur in a slot map, on any level. -/
def Slots.positions : List (String × Slot) → List (Axis × Nat)
  | [] => []
  | (_, slot) :: rest => slot.positions ++ Slots.positions rest
end

theorem Slot.positions_eq (slot : Slot) :
    slot.positions =
      (slot.axis, slot.position) :: Slots.positions slot.children := by
  cases slot
  rw [Slot.positions]
  rfl

theorem Slots.positions_subset {slots : Slots} {id : String} {slot : Slot}
    (member : (id, slot) ∈ slots) : slot.positions ⊆ Slots.positions slots := by
  induction slots with
  | nil => cases member
  | cons entry rest ih =>
      rw [Slots.positions]
      rcases List.mem_cons.mp member with rfl | later
      · exact List.subset_append_left _ _
      · exact List.Subset.trans (ih later) (List.subset_append_right _ _)

theorem Slots.value_mem_positions {slots : Slots} {slot : String × Nat}
    (member : slot ∈ Slots.values slots) :
    (Axis.value, slot.2) ∈ Slots.positions slots := by
  rw [Slots.values_eq_ofAxis] at member
  rcases List.mem_map.mp member with ⟨⟨id, found⟩, there, rfl⟩
  rcases Slots.mem_ofAxis.mp there with ⟨listed, onAxis⟩
  apply Slots.positions_subset listed
  rw [Slot.positions_eq, onAxis]
  exact List.mem_cons_self

theorem Slots.main_mem_positions {slots : Slots} {id : String} {slot : Slot}
    (grouped : slots.grouping? = some (id, slot)) :
    (Axis.main, slot.position) ∈ Slots.positions slots ∧
      Slots.positions slot.children ⊆ Slots.positions slots := by
  rcases Slots.mem_of_grouping? grouped with ⟨listed, onAxis⟩
  have all := Slots.positions_subset listed
  rw [Slot.positions_eq, onAxis] at all
  exact List.cons_subset.mp all

namespace Overrides

/-- Different positions have different names. -/
def NamesApart (overrides : Overrides) (places : List (Axis × Nat)) : Prop :=
  ∀ left ∈ places, ∀ right ∈ places, ∀ name,
    overrides.Names left.1 left.2 name → overrides.Names right.1 right.2 name →
      left = right

/-- A plain cell, and what it is rewritten to: one cell, written twice. -/
def Rewrites (overrides : Overrides) (places : List (Axis × Nat))
    (plain cell : String × Json) : Prop :=
  ∃ raw : RawCell, raw.place ∈ places ∧ plain = raw.plain ∧
    overrides.Writes raw cell

variable {overrides : Overrides} {places : List (Axis × Nat)}
  {plain row : Row}

theorem namesApart_iff :
    overrides.NamesApart places ↔
      ∀ left ∈ places, ∀ right ∈ places,
        overrides.column left.1 left.2 = overrides.column right.1 right.2 →
          left = right := by
  simp only [NamesApart, names_iff]
  exact forall₄_congr fun _ _ _ _ =>
    ⟨fun apart same => apart _ rfl same, fun apart name named named' =>
      apart (named.symm.trans named')⟩

instance (overrides : Overrides) (places : List (Axis × Nat)) :
    Decidable (overrides.NamesApart places) :=
  decidable_of_iff _ namesApart_iff.symm

theorem rewrites_write {cell : RawCell} (inside : cell.place ∈ places) :
    overrides.Rewrites places (Overrides.none.write cell)
      (overrides.write cell) :=
  ⟨cell, inside, write_none cell, writes_iff.mpr rfl⟩

/-! ## Rows of the same cells -/

/-- Where names are apart, both rows have a new cell in the same place. -/
theorem rewrites_insert (apart : overrides.NamesApart places)
    (rewrites : List.Forall₂ (overrides.Rewrites places) plain row)
    {cell : RawCell} (inside : cell.place ∈ places) :
    List.Forall₂ (overrides.Rewrites places)
      (Keyed.insert (Overrides.none.write cell).1
        (Overrides.none.write cell).2 plain)
      (Keyed.insert (overrides.write cell).1 (overrides.write cell).2 row) := by
  induction rewrites with
  | nil => exact .cons (rewrites_write inside) .nil
  | @cons _ _ plain row here later ih =>
      rcases here with ⟨other, there, rfl, writes⟩
      rw [writes_iff.mp writes, ← write_none other]
      have names : (overrides.write other).1 = (overrides.write cell).1 ↔
          (Overrides.none.write other).1 =
            (Overrides.none.write cell).1 := by
        simp only [write_fst, column_none, Axis.label_eq_iff]
        constructor
        · intro same
          exact Prod.mk.inj
            (namesApart_iff.mp apart _ there _ inside same)
        · rintro ⟨axis, position⟩
          rw [axis, position]
      by_cases same :
          (Overrides.none.write other).1 = (Overrides.none.write cell).1
      · simp only [Keyed.insert, names.mpr same, same, if_true]
        exact .cons (rewrites_write inside) later
      · simp only [Keyed.insert, mt names.mp same, same, if_false]
        exact .cons (rewrites_write there) ih

/-- Where names are apart, rows of the same cells have cell beside cell. -/
theorem SameCells.rewrites (apart : overrides.NamesApart places)
    (same : overrides.SameCells places plain row) :
    List.Forall₂ (overrides.Rewrites places) plain row := by
  rcases sameCells_iff.mp same with ⟨cells, inside, rfl, rfl⟩
  induction cells using List.reverseRecOn with
  | nil => exact .nil
  | append_singleton cells cell ih =>
      have earlier : ∀ other ∈ cells, other.place ∈ places :=
        fun other member => inside other (List.mem_append_left _ member)
      rw [row_append, row_append]
      apply rewrites_insert apart
      · exact ih earlier (sameCells_iff.mpr ⟨cells, earlier, rfl, rfl⟩)
      · exact inside cell (List.mem_append_right _ List.mem_cons_self)

theorem SameCells.insert (same : overrides.SameCells places plain row)
    (cell : RawCell) (inside : cell.place ∈ places) :
    overrides.SameCells places
      (Keyed.insert (Overrides.none.write cell).1
        (Overrides.none.write cell).2 plain)
      (Keyed.insert (overrides.write cell).1 (overrides.write cell).2 row) := by
  rcases sameCells_iff.mp same with ⟨cells, each, rfl, rfl⟩
  rw [← row_append, ← row_append]
  refine sameCells_iff.mpr ⟨cells ++ [cell], ?_, rfl, rfl⟩
  intro other member
  rcases List.mem_append.mp member with old | new
  · exact each other old
  · rw [List.mem_singleton.mp new]
    exact inside

end Overrides

/-! ## Two runs of the decoder -/

section Runs

variable {overrides : Overrides} {places : List (Axis × Nat)}
  {plain row : Row}

/-- Value slots put the same cells into both rows. -/
theorem valueCells_related (answers : Answers)
    (docCount : Except DecodeError Json) (path : ResponsePath)
    {values : List (String × Nat)}
    (inside : ∀ slot ∈ values, (Axis.value, slot.2) ∈ places)
    (same : overrides.SameCells places plain row) :
    Outcome.Related (overrides.SameCells places)
      (valueCells .none answers docCount path plain values)
      (valueCells overrides answers docCount path row values) := by
  induction values generalizing plain row with
  | nil => exact .ok same
  | cons slot rest ih =>
      rcases slot with ⟨id, position⟩
      rcases List.forall_mem_cons.mp inside with ⟨here, later⟩
      rw [valueCells_cons, valueCells_cons]
      apply (Outcome.related_self _).bind
      rintro cell _ rfl
      exact ih later (same.insert ⟨.value, position, cell⟩ here)

/-- From any level on, both runs write rows from the same cells. -/
theorem levelRows_related {slots : Slots} {levels : Levels}
    (shape : Slots.levels slots = levels)
    (inside : Slots.positions slots ⊆ places) (answers : Answers)
    (docCount : Except DecodeError Json) (path : ResponsePath)
    (same : overrides.SameCells places plain row) :
    Outcome.Related (List.Forall₂ (overrides.SameCells places))
      (levelRows .none levels answers docCount path plain)
      (levelRows overrides levels answers docCount path row) := by
  induction levels generalizing slots answers docCount path plain row with
  | innermost values =>
      rcases Slots.grouping?_of_innermost shape with ⟨_, rfl⟩
      rw [levelRows, levelRows]
      apply (valueCells_related answers docCount path
        (fun _ member => inside (Slots.value_mem_positions member)) same).bind
      intro written other same
      exact .ok (.cons same .nil)
  | grouped values id position below ih =>
      rcases Slots.grouping?_of_grouped shape with
        ⟨slot, grouped, rfl, rfl, deeper⟩
      rcases Slots.main_mem_positions grouped with ⟨main, further⟩
      rw [levelRows, levelRows]
      apply (valueCells_related answers docCount path
        (fun _ member => inside (Slots.value_mem_positions member)) same).bind
      intro written other same
      apply (Outcome.related_self _).bind
      rintro buckets _ rfl
      have reads : List.Forall₂
          (fun value other =>
            Outcome.Related Eq (Bucket.ofJson value) (Bucket.ofJson other))
          buckets buckets :=
        List.forall₂_same.mpr fun _ _ => Outcome.related_self _
      apply bucketRows_related reads
      rintro here bucket _ rfl
      exact ih deeper (List.Subset.trans further inside) _ _ _
        (same.insert ⟨.main, slot.position, bucket.key⟩ (inside main))

end Runs

/--
Whatever the overrides are, decoding with them fails exactly when decoding
without them does, with the same failure.  Otherwise both give rows side by side
that are written from the same cells; and where different positions of the slot
map have different names, every row has the cells of the plain one in order,
with the columns renamed and the keys of groups replaced.
-/
theorem decode_overrides (overrides : Overrides) (slots : Slots)
    (response : Json) :
    (∀ failure, decode overrides slots response = .error failure ↔
      decode .none slots response = .error failure) ∧
    ∀ plain, decode .none slots response = .ok plain →
      ∃ rows, decode overrides slots response = .ok rows ∧
        rows.length = plain.length ∧
        List.Forall₂ (overrides.SameCells (Slots.positions slots)) plain rows ∧
        (overrides.NamesApart (Slots.positions slots) →
          List.Forall₂
            (List.Forall₂ (overrides.Rewrites (Slots.positions slots)))
            plain rows) := by
  have start : overrides.SameCells (Slots.positions slots) [] [] :=
    ⟨[], [], nofun, .nil, rfl, rfl⟩
  have related : Outcome.Related
      (List.Forall₂ (overrides.SameCells (Slots.positions slots)))
      (decode .none slots response) (decode overrides slots response) :=
    levelRows_related rfl (List.Subset.refl _) _ _ _ start
  refine ⟨related.error_iff, fun plain decoded => ?_⟩
  rcases related.exists_ok decoded with ⟨rows, succeeds, same⟩
  exact ⟨rows, succeeds, same.length_eq.symm, same,
    fun apart => same.imp fun _ _ row => row.rewrites apart⟩

/--
Two columns have a title, and both keys are replaced, one of them a float that
the table has without its point.  The value stays although there is a word for
it.
-/
theorem decode_overrides_mixed :
    ∃ compiled plain rows,
      Sample.catalog.compile .standard .none Sample.twoCounts = .ok compiled ∧
        decode .none compiled.slots Sample.mixedResponse = .ok plain ∧
        decode Sample.overrides compiled.slots Sample.mixedResponse =
          .ok rows ∧
        plain.map Keyed.keys =
          [["main_axis.0", "value_axis.2", "value_axis.1"],
           ["main_axis.0", "value_axis.2", "value_axis.1"]] ∧
        rows =
          [[("State", .string "finished"), ("Documents", .ofUInt64 5),
            ("value_axis.1", .ofUInt64 2)],
           [("State", .string "full"), ("Documents", .ofUInt64 4),
            ("value_axis.1", .null)]] ∧
        Sample.overrides.NamesApart (Slots.positions compiled.slots) ∧
        List.Forall₂
          (List.Forall₂
            (Sample.overrides.Rewrites (Slots.positions compiled.slots)))
          plain rows := by
  have fits :
      (Sample.catalog.compile .standard .none Sample.twoCounts).toOption.any
        (fun compiled =>
          decide (Sample.overrides.NamesApart
              (Slots.positions compiled.slots)) &&
            ((decode .none compiled.slots Sample.mixedResponse).toOption.any
              (fun plain => decide (plain.map Keyed.keys =
                [["main_axis.0", "value_axis.2", "value_axis.1"],
                 ["main_axis.0", "value_axis.2", "value_axis.1"]])) &&
              decide (decode Sample.overrides compiled.slots
                Sample.mixedResponse =
                .ok
                  [[("State", .string "finished"), ("Documents", .ofUInt64 5),
                    ("value_axis.1", .ofUInt64 2)],
                   [("State", .string "full"), ("Documents", .ofUInt64 4),
                    ("value_axis.1", .null)]]))) = true := by
    decide +kernel
  rcases Outcome.exists_ok_of_any fits with ⟨compiled, compiles, all⟩
  rcases (Bool.and_eq_true _ _).mp all with ⟨apart, both⟩
  rcases (Bool.and_eq_true _ _).mp both with ⟨bare, renamed⟩
  rcases Outcome.exists_ok_of_any bare with ⟨plain, decoded, columns⟩
  rcases (decode_overrides Sample.overrides compiled.slots
      Sample.mixedResponse).2 plain decoded with
    ⟨rows, succeeds, _, _, rewritten⟩
  have written := of_decide_eq_true renamed
  rw [succeeds] at written
  exact ⟨compiled, plain, rows, compiles, decoded, succeeds,
    of_decide_eq_true columns, Except.ok.inj written,
    of_decide_eq_true apart, rewritten (of_decide_eq_true apart)⟩

end ChartQuery
