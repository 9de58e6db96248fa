import ChartQuery.Proofs.Compilation.Sorting

/-!
# Slots of the innermost level

A measure at position `p` has the slot of its own number, or the slot `count`
if it is a document count.  Only counts can share a slot: the innermost level
has one slot for each position exactly when at most one measure is a count.
The positions of different slots always differ.
-/

namespace ChartQuery

/-- The slots of the innermost level, where metrics are numbered from `first`. -/
def innermostSlots (first : Nat) (measures : List Measure) : Slots :=
  Keyed.ofList (valueSlots first 0 measures)

/-- The number of document counts among measures. -/
def countMeasures (measures : List Measure) : Nat :=
  measures.countP (fun measure => measure.kind.isNone)

theorem Measure.slotId_metric {id : Nat} {measure : Measure} {kind : MetricKind}
    (metric : measure.kind = some kind) : measure.slotId id = id.repr := by
  simp [Measure.slotId, metric]

theorem Measure.slotId_count {id : Nat} {measure : Measure}
    (count : measure.kind = none) : measure.slotId id = countId := by
  simp [Measure.slotId, count]

/-! ## One slot for each measure -/

theorem valueSlots_eq_mapIdx (first position : Nat) (measures : List Measure) :
    valueSlots first position measures =
      measures.mapIdx (fun offset measure =>
        (measure.slotId (first + offset), .value (position + offset))) := by
  induction measures generalizing first position with
  | nil => rfl
  | cons measure rest ih =>
      rw [valueSlots, ih, List.mapIdx_cons]
      simp [Nat.add_assoc, Nat.add_comm 1]

theorem mem_valueSlots {first position : Nat} {measures : List Measure}
    {id : String} {slot : Slot} :
    (id, slot) ∈ valueSlots first position measures ↔
      ∃ offset measure, measures[offset]? = some measure ∧
        id = measure.slotId (first + offset) ∧
        slot = .value (position + offset) := by
  rw [valueSlots_eq_mapIdx, List.mem_mapIdx]
  constructor
  · rintro ⟨offset, inside, same⟩
    rcases Prod.mk.inj same with ⟨named, made⟩
    exact ⟨offset, measures[offset], List.getElem?_eq_getElem inside,
      named.symm, made.symm⟩
  · rintro ⟨offset, measure, found, rfl, rfl⟩
    rcases List.getElem?_eq_some_iff.mp found with ⟨inside, rfl⟩
    exact ⟨offset, inside, rfl⟩

/-- The number before the first one is not the name of a slot. -/
theorem repr_not_mem_keys_valueSlots (first position : Nat)
    (measures : List Measure) :
    first.repr ∉ Keyed.keys (valueSlots (first + 1) position measures) := by
  intro member
  rcases List.mem_map.mp member with ⟨⟨id, slot⟩, found, named⟩
  rcases mem_valueSlots.mp found with ⟨offset, measure, _, numbered, _⟩
  have equal : first.repr = measure.slotId (first + 1 + offset) :=
    named.symm.trans numbered
  cases kind : measure.kind with
  | none =>
      rw [Measure.slotId_count kind] at equal
      exact countId_ne_repr first equal.symm
  | some metric =>
      rw [Measure.slotId_metric kind] at equal
      have impossible := Nat.repr_inj.mp equal
      omega

theorem countId_mem_keys_valueSlots_iff {first position : Nat}
    {measures : List Measure} :
    countId ∈ Keyed.keys (valueSlots first position measures) ↔
      0 < countMeasures measures := by
  rw [countMeasures, List.countP_pos_iff]
  constructor
  · intro member
    rcases List.mem_map.mp member with ⟨⟨id, slot⟩, found, named⟩
    rcases mem_valueSlots.mp found with ⟨offset, measure, there, numbered, _⟩
    refine ⟨measure, List.mem_of_getElem? there, ?_⟩
    cases kind : measure.kind with
    | none => rfl
    | some metric =>
        rw [Measure.slotId_metric kind] at numbered
        exact (countId_ne_repr _ (named.symm.trans numbered)).elim
  · rintro ⟨measure, member, count⟩
    rcases List.mem_iff_getElem?.mp member with ⟨offset, there⟩
    have slot : (countId, .value (position + offset)) ∈
        valueSlots first position measures :=
      mem_valueSlots.mpr ⟨offset, measure, there,
        (Measure.slotId_count (Option.isNone_iff_eq_none.mp count)).symm, rfl⟩
    exact Keyed.mem_keys slot

/-- Two measures share a slot exactly when two of them are counts. -/
theorem distinct_valueSlots_iff {first position : Nat}
    {measures : List Measure} :
    Keyed.Distinct (valueSlots first position measures) ↔
      countMeasures measures ≤ 1 := by
  induction measures generalizing first position with
  | nil => simp [valueSlots, Keyed.Distinct, Keyed.keys, countMeasures]
  | cons measure rest ih =>
      have unfolded :
          Keyed.Distinct (valueSlots first position (measure :: rest)) ↔
            measure.slotId first ∉
                Keyed.keys (valueSlots (first + 1) (position + 1) rest) ∧
              countMeasures rest ≤ 1 := by
        have later :
            Keyed.Distinct (valueSlots (first + 1) (position + 1) rest) ↔
              countMeasures rest ≤ 1 := ih
        rw [← later]
        exact List.nodup_cons
      rw [unfolded]
      cases kind : measure.kind with
      | none =>
          rw [Measure.slotId_count kind, countId_mem_keys_valueSlots_iff]
          have more : countMeasures (measure :: rest) =
              countMeasures rest + 1 := by
            simp [countMeasures, kind]
          omega
      | some metric =>
          rw [Measure.slotId_metric kind]
          have same : countMeasures (measure :: rest) =
              countMeasures rest := by
            simp [countMeasures, kind]
          rw [same]
          exact and_iff_right (repr_not_mem_keys_valueSlots _ _ _)

/-! ## The innermost level -/

theorem mem_innermostSlots {first : Nat} {measures : List Measure}
    {id : String} {slot : Slot}
    (member : (id, slot) ∈ innermostSlots first measures) :
    ∃ position measure, measures[position]? = some measure ∧
      id = measure.slotId (first + position) ∧ slot = .value position := by
  rcases mem_valueSlots.mp (Keyed.mem_of_mem_ofList member) with
    ⟨offset, measure, there, named, made⟩
  exact ⟨offset, measure, there, named, by rw [made, Nat.zero_add]⟩

theorem distinct_innermostSlots (first : Nat) (measures : List Measure) :
    Keyed.Distinct (innermostSlots first measures) :=
  Keyed.distinct_ofList _

/-- Every measure has its slot, which may belong to a later count. -/
theorem slotId_mem_keys_innermostSlots {first position : Nat}
    {measures : List Measure} {measure : Measure}
    (found : measures[position]? = some measure) :
    measure.slotId (first + position) ∈
      Keyed.keys (innermostSlots first measures) :=
  Keyed.mem_keys_ofList.mpr
    (Keyed.mem_keys (mem_valueSlots.mpr ⟨position, measure, found, rfl, rfl⟩))

/-- Different slots have different positions. -/
theorem nodup_positions_innermostSlots (first : Nat)
    (measures : List Measure) :
    ((innermostSlots first measures).map
      (fun entry => entry.2.position)).Nodup := by
  apply List.Nodup.map_on
  · rintro ⟨leftId, leftSlot⟩ left ⟨rightId, rightSlot⟩ right same
    rcases mem_innermostSlots left with
      ⟨leftPosition, leftMeasure, leftFound, rfl, rfl⟩
    rcases mem_innermostSlots right with
      ⟨rightPosition, rightMeasure, rightFound, rfl, rfl⟩
    have position : leftPosition = rightPosition := same
    subst position
    have measure : leftMeasure = rightMeasure :=
      Option.some.inj (leftFound.symm.trans rightFound)
    rw [measure]
  · exact (distinct_innermostSlots first measures).of_map

/-- With at most one count the slots stand for all positions in order. -/
theorem positions_innermostSlots {first : Nat} {measures : List Measure}
    (counts : countMeasures measures ≤ 1) :
    (innermostSlots first measures).map (fun entry => entry.2.position) =
      List.range measures.length := by
  rw [innermostSlots,
    Keyed.ofList_of_distinct (distinct_valueSlots_iff.mpr counts),
    valueSlots_eq_mapIdx]
  apply List.ext_getElem
  · simp
  · intro position _ _
    simp [Slot.value, Slot.position]

/-- With more counts there are fewer slots than positions. -/
theorem length_innermostSlots_eq_iff {first : Nat} {measures : List Measure} :
    (innermostSlots first measures).length = measures.length ↔
      countMeasures measures ≤ 1 := by
  have length : (valueSlots first 0 measures).length = measures.length := by
    simp [valueSlots_eq_mapIdx]
  rw [← length, innermostSlots, Keyed.length_ofList_eq_iff,
    distinct_valueSlots_iff]

end ChartQuery
