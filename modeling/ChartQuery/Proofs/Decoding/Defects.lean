import ChartQuery.Proofs.Decoding.Paths

/-!
# Defects of a response

A response has a defect where it does not fit a slot map.  `Visit.Defect` lists
all defects that there are, each with the failure that describes it and with its
place, which is found by following the steps of a path from the aggregations of
the response.  Nothing in this list depends on what else is wrong.

Places have an order: a bucket comes before the slots of the level inside it;
there the value slots come first and the grouping after them; then come its
buckets, each with all that is inside it before the next one.
-/

namespace ChartQuery

/-! ## What can be wrong -/

/-- What is wrong with an element among buckets. -/
inductive Json.HasFault : Json → BucketFault → Prop where
  | notAnObject {value : Json} (other : ∀ members, value ≠ .object members) :
      HasFault value .notAnObject
  | noKey {members : Answers} (absent : Keyed.get? "key" members = none) :
      HasFault (.object members) .noKey
  | noDocCount {members : Answers} {key : Json}
      (keyed : Keyed.get? "key" members = some key)
      (uncounted : ∀ count, Keyed.get? "doc_count" members = some count →
        count.isNumber = false) :
      HasFault (.object members) .noDocCount

/-- Why a value slot has no cell in a scope, which is reached by a path. -/
inductive Scope.CellDefect (scope : Scope) (path : ResponsePath)
    (id : String) : DecodeError → Prop where
  | noTotal (count : id = countId) (uncounted : scope.size? = none) :
      CellDefect scope path id .missingTotalHits
  | noAnswer (metric : id ≠ countId)
      (absent : Keyed.get? id scope.answers = none) :
      CellDefect scope path id (.missingAggregation id path)
  | noValue {answer : Json} (metric : id ≠ countId)
      (answered : Keyed.get? id scope.answers = some answer)
      (absent : answer.member? "value" = none) :
      CellDefect scope path id (.missingMetricValue id path)

/-- Why a grouping has no buckets in a scope, which is reached by a path. -/
inductive Scope.ListDefect (scope : Scope) (path : ResponsePath)
    (id : String) : DecodeError → Prop where
  | noAnswer (absent : Keyed.get? id scope.answers = none) :
      ListDefect scope path id (.missingAggregation id path)
  | noBuckets {answer : Json}
      (answered : Keyed.get? id scope.answers = some answer)
      (unlisted : ∀ buckets, answer.member? "buckets" ≠ some (.array buckets)) :
      ListDefect scope path id (.notABucketAggregation id path)

/-! ## Where it can be wrong -/

/--
A place in a response: a path of steps into buckets, and a stage of what is
found there.  Stage `0` is the bucket that the last step is into, a later stage
a slot of the level inside it.
-/
structure Place where
  steps : ResponsePath
  stage : Nat

namespace Place

/-- The numbers of the buckets on the way. -/
def numbers (place : Place) : List Nat := place.steps.map BucketStep.number

/-- The order of places: by the numbers on the way, then by the stage. -/
def Before (left right : Place) : Prop :=
  left.numbers < right.numbers ∨
    left.numbers = right.numbers ∧ left.stage < right.stage

/-- The same place, looked at from outside a bucket. -/
def within (step : BucketStep) (place : Place) : Place :=
  ⟨step :: place.steps, place.stage⟩

theorem not_before_self (place : Place) : ¬place.Before place := by
  rintro (less | ⟨_, less⟩)
  · exact lt_irrefl _ less
  · exact lt_irrefl _ less

theorem before_of_within {step : BucketStep} {left right : Place}
    (before : (left.within step).Before (right.within step)) :
    left.Before right := by
  rcases before with less | ⟨same, less⟩
  · rcases List.cons_lt_cons_iff.mp less with smaller | ⟨_, inside⟩
    · exact (lt_irrefl _ smaller).elim
    · exact Or.inl inside
  · exact Or.inr ⟨(List.cons.inj same).2, less⟩

/-- All that is inside a bucket comes behind the bucket itself. -/
theorem not_within_before (step : BucketStep) (place : Place) :
    ¬(place.within step).Before ⟨[step], 0⟩ := by
  rintro (less | ⟨_, less⟩)
  · rcases List.cons_lt_cons_iff.mp less with smaller | ⟨_, inside⟩
    · exact lt_irrefl _ smaller
    · exact List.not_lt_nil _ inside
  · exact Nat.not_lt_zero _ less

/-- All that is inside a bucket comes behind the slots of the level outside. -/
theorem not_within_before_level (step : BucketStep) (place : Place)
    (stage : Nat) : ¬(place.within step).Before ⟨[], stage⟩ := by
  rintro (less | ⟨same, _⟩)
  · exact List.not_lt_nil _ less
  · cases same

/-- On one level the stages decide. -/
theorem not_level_before {stage other : Nat} (smaller : stage ≤ other) :
    ¬Place.Before ⟨[], other⟩ ⟨[], stage⟩ := by
  rintro (less | ⟨_, less⟩)
  · exact lt_irrefl _ less
  · exact Nat.not_lt_of_le smaller less

/-- A bucket with a smaller number comes before, with all that is inside it. -/
theorem not_later_before {first later : BucketStep}
    (smaller : first.number < later.number) (inside other : Place) :
    ¬(other.within later).Before (inside.within first) := by
  rintro (less | ⟨same, _⟩)
  · rcases List.cons_lt_cons_iff.mp less with greater | ⟨same, _⟩
    · exact lt_asymm smaller greater
    · exact absurd same smaller.ne'
  · exact absurd (List.cons.inj same).1 smaller.ne'

end Place

namespace Visit

/-- Steps into buckets lead from a level to a level inside it. -/
inductive Leads : Visit → ResponsePath → Visit → Prop where
  | here (visit : Visit) : Leads visit [] visit
  /-- A step takes an element of the buckets of the grouping. -/
  | inside {visit last : Visit} {id : String} {slot : Slot} {number : Nat}
      {bucket : Json} {steps : ResponsePath}
      (grouped : visit.slots.grouping? = some (id, slot))
      (listed : (visit.scope.buckets id)[number]? = some bucket)
      (further : Leads (visit.branch slot bucket) steps last) :
      Leads visit (⟨id, number⟩ :: steps) last

/-- What is wrong at a stage of a level, which is reached by a path. -/
inductive LevelDefect (visit : Visit) (path : ResponsePath) :
    Nat → DecodeError → Prop where
  | value {index : Nat} {entry : String × Slot} {failure : DecodeError}
      (there : (visit.slots.ofAxis .value)[index]? = some entry)
      (defect : visit.scope.CellDefect path entry.1 failure) :
      LevelDefect visit path (index + 1) failure
  /-- The grouping comes behind all value slots. -/
  | grouping {id : String} {slot : Slot} {failure : DecodeError}
      (grouped : visit.slots.grouping? = some (id, slot))
      (defect : visit.scope.ListDefect path id failure) :
      LevelDefect visit path ((visit.slots.ofAxis .value).length + 1) failure

/--
What is wrong at a place, seen from a level that is itself reached by a path:
the path goes on with the steps of the place.
-/
inductive Defect (visit : Visit) (path : ResponsePath) :
    Place → DecodeError → Prop where
  | level {steps : ResponsePath} {last : Visit} {stage : Nat}
      {failure : DecodeError}
      (leads : visit.Leads steps last)
      (defect : last.LevelDefect (path ++ steps) stage failure) :
      Defect visit path ⟨steps, stage⟩ failure
  | bucket {steps : ResponsePath} {last : Visit} {id : String} {slot : Slot}
      {number : Nat} {value : Json} {fault : BucketFault}
      (leads : visit.Leads steps last)
      (grouped : last.slots.grouping? = some (id, slot))
      (listed : (last.scope.buckets id)[number]? = some value)
      (faulty : value.HasFault fault) :
      Defect visit path ⟨steps ++ [⟨id, number⟩], 0⟩
        (.malformedBucket id (path ++ (steps ++ [⟨id, number⟩])) fault)

/-- What is wrong with one of the buckets of a level, or inside that bucket. -/
inductive BucketDefect (visit : Visit) (path : ResponsePath) (slot : Slot)
    (step : BucketStep) (value : Json) : Place → DecodeError → Prop where
  | here {fault : BucketFault} (faulty : value.HasFault fault) :
      BucketDefect visit path slot step value ⟨[step], 0⟩
        (.malformedBucket step.id (path ++ [step]) fault)
  | inside {place : Place} {failure : DecodeError}
      (defect : (visit.branch slot value).Defect (path ++ [step]) place
        failure) :
      BucketDefect visit path slot step value (place.within step) failure

variable {visit : Visit} {path : ResponsePath}

/-- A defect is one of the level itself, or one of its buckets has it. -/
theorem defect_iff {place : Place} {failure : DecodeError} :
    visit.Defect path place failure ↔
      (∃ stage, place = ⟨[], stage⟩ ∧ visit.LevelDefect path stage failure) ∨
        ∃ id slot number value,
          visit.slots.grouping? = some (id, slot) ∧
            (visit.scope.buckets id)[number]? = some value ∧
            visit.BucketDefect path slot ⟨id, number⟩ value place failure := by
  constructor
  · intro defect
    cases defect with
    | level leads defect =>
        cases leads with
        | here => exact Or.inl ⟨_, rfl, by simpa using defect⟩
        | inside grouped listed further =>
            refine Or.inr ⟨_, _, _, _, grouped, listed, ?_⟩
            exact .inside (.level further (by simpa using defect))
    | bucket leads grouped listed faulty =>
        cases leads with
        | here => exact Or.inr ⟨_, _, _, _, grouped, listed, .here faulty⟩
        | inside outer taken further =>
            refine Or.inr ⟨_, _, _, _, outer, taken, ?_⟩
            simpa [Place.within] using
              BucketDefect.inside (.bucket further grouped listed faulty)
  · rintro (⟨stage, rfl, defect⟩ |
      ⟨id, slot, number, value, grouped, listed, defect⟩)
    · exact .level (.here visit) (by simpa using defect)
    · cases defect with
      | here faulty => exact .bucket (.here visit) grouped listed faulty
      | inside defect =>
          cases defect with
          | level leads defect =>
              exact .level (.inside grouped listed leads)
                (by simpa using defect)
          | bucket leads inner taken faulty =>
              have further : visit.Defect path _ _ :=
                .bucket (.inside grouped listed leads) inner taken faulty
              simpa [Place.within] using further

/-- At the innermost level there are value slots only. -/
theorem defect_iff_of_innermost (innermost : visit.slots.grouping? = none)
    {place : Place} {failure : DecodeError} :
    visit.Defect path place failure ↔
      ∃ index entry, (visit.slots.ofAxis .value)[index]? = some entry ∧
        place = ⟨[], index + 1⟩ ∧
        visit.scope.CellDefect path entry.1 failure := by
  rw [defect_iff]
  constructor
  · rintro (⟨stage, rfl, defect⟩ | ⟨id, slot, number, value, grouped, _⟩)
    · cases defect with
      | value there defect => exact ⟨_, _, there, rfl, defect⟩
      | grouping grouped => simp [innermost] at grouped
    · simp [innermost] at grouped
  · rintro ⟨index, entry, there, rfl, defect⟩
    exact Or.inl ⟨_, rfl, .value there defect⟩

/-- Elsewhere there is a grouping too, and what its buckets have. -/
theorem defect_iff_of_grouped {id : String} {slot : Slot}
    (grouped : visit.slots.grouping? = some (id, slot)) {place : Place}
    {failure : DecodeError} :
    visit.Defect path place failure ↔
      (∃ index entry, (visit.slots.ofAxis .value)[index]? = some entry ∧
        place = ⟨[], index + 1⟩ ∧
        visit.scope.CellDefect path entry.1 failure) ∨
      place = ⟨[], (visit.slots.ofAxis .value).length + 1⟩ ∧
        visit.scope.ListDefect path id failure ∨
      ∃ number value, (visit.scope.buckets id)[number]? = some value ∧
        visit.BucketDefect path slot ⟨id, number⟩ value place failure := by
  rw [defect_iff]
  constructor
  · rintro (⟨stage, rfl, defect⟩ | ⟨other, found, number, value, there, rest⟩)
    · cases defect with
      | value there defect => exact Or.inl ⟨_, _, there, rfl, defect⟩
      | grouping there defect =>
          cases grouped.symm.trans there
          exact Or.inr (Or.inl ⟨rfl, defect⟩)
    · cases grouped.symm.trans there
      exact Or.inr (Or.inr ⟨number, value, rest⟩)
  · rintro (⟨index, entry, there, rfl, defect⟩ | ⟨rfl, defect⟩ |
      ⟨number, value, rest⟩)
    · exact Or.inl ⟨_, rfl, .value there defect⟩
    · exact Or.inl ⟨_, rfl, .grouping grouped defect⟩
    · exact Or.inr ⟨id, slot, number, value, grouped, rest⟩

/-- A bucket has its defects inside it, or is one itself. -/
theorem BucketDefect.exists_within {slot : Slot} {step : BucketStep}
    {value : Json} {place : Place} {failure : DecodeError}
    (defect : visit.BucketDefect path slot step value place failure) :
    ∃ inner : Place, place = inner.within step := by
  cases defect with
  | here faulty => exact ⟨⟨[], 0⟩, rfl⟩
  | inside defect => exact ⟨_, rfl⟩

end Visit

end ChartQuery
