import ChartQuery.Proofs.Decoding.Paths
import ChartQuery.Proofs.Decoding.Steps
import ChartQuery.Proofs.Sample

/-!
# Decoding lists the rows of all paths

The decoder walks through a response with a row that it extends on the way, and
gives up at the first level that cannot be read.  Whatever the slot map and the
response are, it succeeds when every level that a path leads to can be read, and
only then; its rows are those of the paths, in lexicographic order.
-/

namespace ChartQuery

/-! ## One level -/

namespace Visit

variable {visit : Visit} {docCount : Except DecodeError Json}
  {path : ResponsePath} {id : String}

/-- A computation gives the rows of all paths if all levels can be read. -/
structure Yields (visit : Visit) (outcome : Except DecodeError (List Row)) :
    Prop where
  succeeds_iff : (∃ rows, outcome = .ok rows) ↔ visit.AllReadable
  lists : ∀ rows, outcome = .ok rows → visit.Lists rows

/-- The row of the decoder holds the cells that were met so far. -/
theorem valueCells_eq_ok_iff (counts : visit.scope.Counts docCount)
    {row : Row} :
    valueCells .none visit.scope.answers docCount path
        (Keyed.ofList visit.before) (Slots.values visit.slots) = .ok row ↔
      visit.HasCells ∧ row = Keyed.ofList visit.cells := by
  have cells : visit.scope.cells (Slots.values visit.slots) =
      visit.slots.cells visit.scope := by
    rw [Slots.values_eq_ofAxis, Scope.cells, List.filterMap_map]
    rfl
  have row : Keyed.ofList visit.cells =
      (visit.slots.cells visit.scope).foldl
        (fun row cell => Keyed.insert cell.1 cell.2 row)
        (Keyed.ofList visit.before) :=
    List.foldl_append
  rw [ChartQuery.valueCells_eq_ok_iff counts, cells, row,
    Slots.values_eq_ofAxis, List.forall_mem_map, Prod.forall]
  rfl

/-- Buckets that are decoded one after the other give the rows of branches. -/
theorem bucketRows_yields
    {inside : ResponsePath → Bucket → Except DecodeError (List Row)}
    {values : List Json} {branches : List Visit}
    (each : List.Forall₂
      (fun value branch => ∀ here bucket, Bucket.ofJson value = .ok bucket →
        Yields branch (inside here bucket))
      values branches)
    (number : Nat) :
    ((∃ rows, bucketRows id path inside number values = .ok rows) ↔
      (∀ value ∈ values, value.isBucket = true) ∧
        ∀ branch ∈ branches, branch.AllReadable) ∧
    ∀ rows, bucketRows id path inside number values = .ok rows →
      ∃ parts, List.Forall₂ Lists branches parts ∧ rows = parts.flatten := by
  induction each generalizing number with
  | nil =>
      constructor
      · simp [bucketRows]
      · rintro rows ⟨⟩
        exact ⟨[], .nil, rfl⟩
  | @cons value branch values branches walk _ ih =>
      simp only [bucketRows_cons_eq_ok_iff, List.forall_mem_cons]
      rcases ih (number + 1) with ⟨succeeds, lists⟩
      constructor
      · constructor
        · rintro ⟨_, bucket, here, more, read, walked, later, _⟩
          have rest := succeeds.mp ⟨more, later⟩
          exact ⟨⟨Bucket.isBucket_of_ofJson read, rest.1⟩,
            (walk _ _ read).succeeds_iff.mp ⟨here, walked⟩, rest.2⟩
        · rintro ⟨⟨wellFormed, others⟩, readable, deeper⟩
          rcases Bucket.ofJson_of_isBucket wellFormed with
            ⟨key, count, _, _, read⟩
          rcases (walk (path ++ [⟨id, number⟩]) _ read).succeeds_iff.mpr
              readable with
            ⟨here, walked⟩
          rcases succeeds.mpr ⟨others, deeper⟩ with ⟨more, later⟩
          exact ⟨here ++ more, _, here, more, read, walked, later, rfl⟩
      · rintro rows ⟨bucket, here, more, read, walked, later, rfl⟩
        rcases lists more later with ⟨parts, listed, rfl⟩
        exact ⟨here :: parts, .cons ((walk _ _ read).lists here walked) listed,
          rfl⟩

/-! ## All levels -/

/-- The rows of the innermost level: a single one. -/
theorem levelRows_innermost_eq_ok_iff (counts : visit.scope.Counts docCount)
    {rows : List Row} :
    levelRows .none (.innermost (Slots.values visit.slots))
        visit.scope.answers docCount path (Keyed.ofList visit.before) =
      .ok rows ↔
    visit.HasCells ∧ rows = [Keyed.ofList visit.cells] := by
  rw [levelRows, Outcome.bind_eq_ok_iff]
  simp only [valueCells_eq_ok_iff counts]
  constructor
  · rintro ⟨_, ⟨readable, rfl⟩, made⟩
    cases made
    exact ⟨readable, rfl⟩
  · rintro ⟨readable, rfl⟩
    exact ⟨_, ⟨readable, rfl⟩, rfl⟩

/-- The rows of a level with a grouping: those inside the buckets. -/
theorem levelRows_grouped_eq_ok_iff (counts : visit.scope.Counts docCount)
    {position : Nat} {below : Levels} {rows : List Row} :
    levelRows .none
        (.grouped (Slots.values visit.slots) id position below)
        visit.scope.answers docCount path (Keyed.ofList visit.before) =
      .ok rows ↔
    visit.HasCells ∧
      ∃ buckets, visit.scope.listed? id = some buckets ∧
        bucketRows id path
          (fun here bucket =>
            levelRows .none below bucket.answers (.ok bucket.docCount) here
              (Keyed.insert (Axis.main.label position) bucket.key
                (Keyed.ofList visit.cells)))
          0 buckets = .ok rows := by
  rw [levelRows, Outcome.bind_eq_ok_iff]
  simp only [valueCells_eq_ok_iff counts, Outcome.bind_eq_ok_iff,
    Scope.buckets_eq_ok_iff, Overrides.column_none, Overrides.keyCell_none]
  constructor
  · rintro ⟨_, ⟨readable, rfl⟩, walked⟩
    exact ⟨readable, walked⟩
  · rintro ⟨readable, walked⟩
    exact ⟨_, ⟨readable, rfl⟩, walked⟩

theorem yields_of_innermost (innermost : visit.slots.grouping? = none)
    (counts : visit.scope.Counts docCount) :
    visit.Yields
      (levelRows .none (.innermost (Slots.values visit.slots))
        visit.scope.answers docCount path (Keyed.ofList visit.before)) := by
  constructor
  · rw [allReadable_iff, branches_of_innermost innermost]
    simp only [levelRows_innermost_eq_ok_iff counts]
    constructor
    · rintro ⟨_, values, _⟩
      refine ⟨⟨values, ?_⟩, List.forall_mem_nil _⟩
      intro id slot grouped
      rw [innermost] at grouped
      cases grouped
    · rintro ⟨readable, _⟩
      exact ⟨_, readable.values, rfl⟩
  · intro rows decoded
    rw [((levelRows_innermost_eq_ok_iff counts).mp decoded).2]
    exact lists_of_innermost innermost

/-- A level with a grouping is decoded as the levels inside its buckets are. -/
theorem yields_of_grouped {slot : Slot} {below : Levels}
    (grouped : visit.slots.grouping? = some (id, slot))
    (counts : visit.scope.Counts docCount)
    (inside : ∀ value here bucket, Bucket.ofJson value = .ok bucket →
      (visit.branch slot value).Yields
        (levelRows .none below bucket.answers (.ok bucket.docCount) here
          (Keyed.insert (Axis.main.label slot.position) bucket.key
            (Keyed.ofList visit.cells)))) :
    visit.Yields
      (levelRows .none
        (.grouped (Slots.values visit.slots) id slot.position below)
        visit.scope.answers docCount path (Keyed.ofList visit.before)) := by
  have walk : ∀ buckets : List Json,
      List.Forall₂
        (fun value branch => ∀ here bucket,
          Bucket.ofJson value = .ok bucket →
          Yields branch
            (levelRows .none below bucket.answers (.ok bucket.docCount) here
              (Keyed.insert (Axis.main.label slot.position) bucket.key
                (Keyed.ofList visit.cells))))
        buckets (buckets.map (visit.branch slot)) := by
    intro buckets
    rw [List.forall₂_map_right_iff, List.forall₂_same]
    exact fun value _ => inside value
  constructor
  · rw [allReadable_iff]
    simp only [levelRows_grouped_eq_ok_iff counts]
    constructor
    · rintro ⟨rows, values, buckets, listed, walked⟩
      rcases (bucketRows_yields (walk buckets) 0).1.mp ⟨rows, walked⟩ with
        ⟨wellFormed, readable⟩
      rw [← branches_of_grouped grouped listed] at readable
      refine ⟨⟨values, ?_⟩, readable⟩
      intro other found there
      rw [grouped] at there
      cases there
      exact ⟨buckets, listed, wellFormed⟩
    · rintro ⟨here, readable⟩
      rcases here.buckets _ _ grouped with ⟨buckets, listed, wellFormed⟩
      rw [branches_of_grouped grouped listed] at readable
      rcases (bucketRows_yields (walk buckets) 0).1.mpr
          ⟨wellFormed, readable⟩ with
        ⟨rows, walked⟩
      exact ⟨rows, here.values, buckets, listed, walked⟩
  · intro rows decoded
    rcases (levelRows_grouped_eq_ok_iff counts).mp decoded with
      ⟨_, buckets, listed, walked⟩
    rcases (bucketRows_yields (walk buckets) 0).2 rows walked with
      ⟨parts, lists, rfl⟩
    rw [← branches_of_grouped grouped listed] at lists
    exact lists_of_grouped grouped lists

/-- From any level on, the decoder lists the rows of all paths. -/
theorem levelRows_yields {levels : Levels}
    (shape : Slots.levels visit.slots = levels)
    (counts : visit.scope.Counts docCount) :
    visit.Yields
      (levelRows .none levels visit.scope.answers docCount path
        (Keyed.ofList visit.before)) := by
  -- What carries the induction is that the row is the map of the cells before.
  induction levels generalizing visit docCount path with
  | innermost values =>
      rcases Slots.grouping?_of_innermost shape with ⟨innermost, rfl⟩
      exact yields_of_innermost innermost counts
  | grouped values id position below ih =>
      rcases Slots.grouping?_of_grouped shape with
        ⟨slot, grouped, rfl, rfl, deeper⟩
      apply yields_of_grouped grouped counts
      intro value here bucket read
      rcases Bucket.ofJson_of_isBucket (Bucket.isBucket_of_ofJson read) with
        ⟨key, count, keyed, counted, same⟩
      rw [read] at same
      cases same
      have walked : (visit.branch slot value).Yields
          (levelRows .none below (Scope.ofBucket value).answers (.ok count)
            here (Keyed.ofList (visit.branch slot value).before)) :=
        ih deeper (Scope.counts_ok counted)
      simpa [branch, keyed, Keyed.ofList] using walked

end Visit

/-! ## Whole responses -/

theorem Scope.counts_root (response : Json) :
    (Scope.root response).Counts (totalHits response) := by
  intro count
  rw [totalHits_eq_ok_iff]
  exact Option.filter_eq_some_iff.symm

/--
Whatever the slot map and the response are, decoding succeeds exactly when every
level that a path of buckets leads to can be read.  The rows are then those of
all paths that end at a level without a grouping, in lexicographic order.
-/
theorem decode_lists_paths (slots : Slots) (response : Json) :
    ((∃ rows, decode .none slots response = .ok rows) ↔
      (Visit.root slots response).AllReadable) ∧
    ∀ rows, decode .none slots response = .ok rows →
      (Visit.root slots response).Lists rows := by
  have walk : (Visit.root slots response).Yields
      (decode .none slots response) := by
    rw [decode, rootAnswers_eq]
    exact Visit.levelRows_yields rfl (Scope.counts_root response)
  exact ⟨walk.succeeds_iff, walk.lists⟩

/--
Two paths, one for each bucket of the last grouping.  The value inside a bucket
takes the place of the total outside, in front of the key.
-/
theorem decode_lists_paths_writtenSlots :
    ∃ rows,
      decode .none Sample.writtenSlots Sample.mixedResponse = .ok rows ∧
        rows.map Keyed.keys =
          [["value_axis.0", "main_axis.1", "value_axis.1"],
           ["value_axis.0", "main_axis.1", "value_axis.1"]] ∧
        rows.map (Keyed.get? "value_axis.0") =
          [some (.ofUInt64 2), some .null] ∧
        (Visit.root Sample.writtenSlots Sample.mixedResponse).AllReadable ∧
        (Visit.root Sample.writtenSlots Sample.mixedResponse).Lists rows := by
  have fits :
      (decode .none Sample.writtenSlots Sample.mixedResponse).toOption.any
        (fun rows =>
          decide (rows.map Keyed.keys =
            [["value_axis.0", "main_axis.1", "value_axis.1"],
             ["value_axis.0", "main_axis.1", "value_axis.1"]]) &&
          decide (rows.map (Keyed.get? "value_axis.0") =
            [some (.ofUInt64 2), some .null])) = true := by
    decide +kernel
  rcases Outcome.exists_ok_of_any fits with ⟨rows, decoded, both⟩
  rcases (Bool.and_eq_true _ _).mp both with ⟨columns, cells⟩
  rcases decode_lists_paths Sample.writtenSlots Sample.mixedResponse with
    ⟨succeeds, lists⟩
  exact ⟨rows, decoded, of_decide_eq_true columns, of_decide_eq_true cells,
    succeeds.mp ⟨rows, decoded⟩, lists rows decoded⟩

end ChartQuery
