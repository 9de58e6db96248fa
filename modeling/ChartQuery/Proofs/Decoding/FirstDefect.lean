import ChartQuery.Proofs.Decoding.Defects
import ChartQuery.Proofs.Decoding.Enumeration
import ChartQuery.Proofs.Sample

/-!
# The first defect of a response

The decoder stops at the first thing that is wrong.  For each of its steps, and
then for whole levels, `StopsAtFirst` compares the outcome with the list of all
defects: the step succeeds when there is none, and otherwise it fails with one
that no other defect comes before.
-/

namespace ChartQuery

/-! ## What single steps report -/

/-- The number of the documents of a scope, for a decoder that asks for it. -/
def Scope.counted (scope : Scope) : Except DecodeError Json :=
  match scope.size? with
  | some count => .ok count
  | none => .error .missingTotalHits

section Steps

variable {scope : Scope} {path : ResponsePath} {id : String}
  {failure : DecodeError}

theorem Scope.counted_eq_error_iff :
    scope.counted = .error failure ↔
      scope.size? = none ∧ failure = .missingTotalHits := by
  unfold Scope.counted
  cases scope.size? <;> simp [eq_comm]

theorem Scope.cell_eq_error_iff :
    (if id = countId then scope.counted
      else scope.answers.metricValue id path) = .error failure ↔
      scope.CellDefect path id failure := by
  by_cases count : id = countId
  · rw [if_pos count, Scope.counted_eq_error_iff]
    constructor
    · rintro ⟨uncounted, rfl⟩
      exact .noTotal count uncounted
    · intro defect
      cases defect with
      | noTotal _ uncounted => exact ⟨uncounted, rfl⟩
      | noAnswer metric => exact (metric count).elim
      | noValue metric => exact (metric count).elim
  · rw [if_neg count, Answers.metricValue_eq_error_iff]
    constructor
    · rintro (⟨absent, rfl⟩ | ⟨answer, answered, absent, rfl⟩)
      · exact .noAnswer count absent
      · exact .noValue count answered absent
    · intro defect
      cases defect with
      | noTotal named => exact (count named).elim
      | noAnswer _ absent => exact Or.inl ⟨absent, rfl⟩
      | noValue _ answered absent => exact Or.inr ⟨_, answered, absent, rfl⟩

theorem Json.bind_asArray?_eq_none_iff {member : Option Json} :
    member.bind Json.asArray? = none ↔
      ∀ elements, member ≠ some (.array elements) := by
  rcases member with _ | (_ | _ | _ | _ | _ | _) <;> simp [Json.asArray?]

theorem Scope.buckets_eq_error_iff :
    scope.answers.buckets id path = .error failure ↔
      scope.ListDefect path id failure := by
  rw [Answers.buckets_eq_error_iff]
  simp only [Json.bind_asArray?_eq_none_iff]
  constructor
  · rintro (⟨absent, rfl⟩ | ⟨answer, answered, unlisted, rfl⟩)
    · exact .noAnswer absent
    · exact .noBuckets answered unlisted
  · intro defect
    cases defect with
    | noAnswer absent => exact Or.inl ⟨absent, rfl⟩
    | noBuckets answered unlisted => exact Or.inr ⟨_, answered, unlisted, rfl⟩

theorem Bucket.ofJson_eq_error_iff {value : Json} {fault : BucketFault} :
    Bucket.ofJson value = .error fault ↔ value.HasFault fault := by
  constructor
  · intro failed
    cases value with
    | object members =>
        cases keyed : Keyed.get? "key" members with
        | none =>
            simp [Bucket.ofJson, keyed] at failed
            rw [← failed]
            exact .noKey keyed
        | some key =>
            cases counted :
                (Keyed.get? "doc_count" members).filter Json.isNumber with
            | none =>
                simp [Bucket.ofJson, keyed, counted] at failed
                rw [← failed]
                refine .noDocCount keyed fun count there => ?_
                simpa [there, Option.filter] using counted
            | some docCount =>
                simp [Bucket.ofJson, keyed, counted] at failed
    | _ =>
        cases failed
        refine .notAnObject fun members same => ?_
        cases same
  · intro faulty
    cases faulty with
    | notAnObject other =>
        cases value with
        | object members => exact (other members rfl).elim
        | _ => rfl
    | noKey absent => simp [Bucket.ofJson, absent]
    | @noDocCount members key keyed uncounted =>
        have none : (Keyed.get? "doc_count" members).filter Json.isNumber =
            none := by
          rw [Option.filter_eq_none_iff]
          intro count there
          simp [uncounted count there]
        simp [Bucket.ofJson, keyed, none]

end Steps

/-! ## The walk of the decoder -/

section Walk

variable {overrides : Overrides} {path : ResponsePath}

/-- Value slots are read one after the other, up to the first defect. -/
theorem valueCells_stopsAtFirst (scope : Scope)
    (values : List (String × Nat)) (row : Row) (first : Nat) :
    Outcome.StopsAtFirst Place.Before
      (valueCells overrides scope.answers scope.counted path row values)
      fun place failure => ∃ index slot, values[index]? = some slot ∧
        place = ⟨[], first + index + 1⟩ ∧
        scope.CellDefect path slot.1 failure := by
  induction values generalizing row first with
  | nil => exact ⟨by simp, nofun⟩
  | cons slot rest ih =>
      rcases slot with ⟨id, position⟩
      rw [valueCells_cons]
      have shifted : ∀ index, first + 1 + index = first + (index + 1) :=
        fun index => by omega
      have here : Outcome.StopsAtFirst Place.Before
          (if id = countId then scope.counted
            else scope.answers.metricValue id path)
          fun place failure => place = ⟨[], first + 1⟩ ∧
            scope.CellDefect path id failure :=
        Outcome.stopsAtFirst_at (Place.not_before_self _)
          fun _ => Scope.cell_eq_error_iff
      apply (here.bind (fun cell _ => ih _ (first + 1)) ?_).congr
      · intro place failure
        constructor
        · rintro ⟨index, slot, there, rfl, defect⟩
          cases index with
          | zero =>
              cases there
              exact Or.inl ⟨rfl, defect⟩
          | succ index =>
              refine Or.inr ⟨index, slot, there, ?_, defect⟩
              rw [shifted]
        · rintro (⟨rfl, defect⟩ | ⟨index, slot, there, rfl, defect⟩)
          · exact ⟨0, _, rfl, rfl, defect⟩
          · refine ⟨index + 1, slot, there, ?_, defect⟩
            rw [shifted]
      · rintro _ _ _ _ ⟨rfl, _⟩ ⟨index, _, _, rfl, _⟩
        exact Place.not_level_before (by omega)

theorem Visit.values_stopsAtFirst (visit : Visit) (row : Row) :
    Outcome.StopsAtFirst Place.Before
      (valueCells overrides visit.scope.answers visit.scope.counted path row
        (Slots.values visit.slots))
      fun place failure => ∃ index entry,
        (visit.slots.ofAxis .value)[index]? = some entry ∧
          place = ⟨[], index + 1⟩ ∧
          visit.scope.CellDefect path entry.1 failure := by
  apply (valueCells_stopsAtFirst visit.scope _ row 0).congr
  intro place failure
  simp only [Slots.values_eq_ofAxis, List.getElem?_map, Option.map_eq_some_iff,
    Nat.zero_add]
  constructor
  · rintro ⟨index, entry, there, rfl, defect⟩
    exact ⟨index, _, ⟨entry, there, rfl⟩, rfl, defect⟩
  · rintro ⟨index, _, ⟨entry, there, rfl⟩, rfl, defect⟩
    exact ⟨index, entry, there, rfl, defect⟩

/-- Of numbered buckets the first one has a defect, or one behind it has. -/
theorem exists_bucketDefect_cons_iff {visit : Visit} {slot : Slot}
    {id : String} {value : Json} {rest : List Json} {first : Nat}
    {place : Place} {failure : DecodeError} :
    (∃ number found, (value :: rest)[number]? = some found ∧
      visit.BucketDefect path slot ⟨id, first + number⟩ found place failure) ↔
    (place = ⟨[⟨id, first⟩], 0⟩ ∧
      ∃ fault, Bucket.ofJson value = .error fault ∧
        failure = .malformedBucket id (path ++ [⟨id, first⟩]) fault) ∨
    (∃ inner : Place, place = inner.within ⟨id, first⟩ ∧
      (visit.branch slot value).Defect (path ++ [⟨id, first⟩]) inner failure) ∨
    ∃ number found, rest[number]? = some found ∧
      visit.BucketDefect path slot ⟨id, first + 1 + number⟩ found place
        failure := by
  have shifted : ∀ number, first + 1 + number = first + (number + 1) :=
    fun number => by omega
  constructor
  · rintro ⟨number, found, there, defect⟩
    cases number with
    | zero =>
        cases there
        cases defect with
        | here faulty =>
            exact Or.inl ⟨rfl, _, Bucket.ofJson_eq_error_iff.mpr faulty, rfl⟩
        | inside defect => exact Or.inr (Or.inl ⟨_, rfl, defect⟩)
    | succ number =>
        rw [← shifted] at defect
        exact Or.inr (Or.inr ⟨number, found, there, defect⟩)
  · rintro (⟨rfl, fault, faulty, rfl⟩ | ⟨inner, rfl, defect⟩ |
      ⟨number, found, there, defect⟩)
    · exact ⟨0, value, rfl, .here (Bucket.ofJson_eq_error_iff.mp faulty)⟩
    · exact ⟨0, value, rfl, .inside defect⟩
    · rw [shifted] at defect
      exact ⟨number + 1, found, there, defect⟩

/-- Buckets are decoded one after the other, up to the first defect. -/
theorem bucketRows_stopsAtFirst {visit : Visit} {slot : Slot} {id : String}
    {inside : ResponsePath → Bucket → Except DecodeError (List Row)}
    (each : ∀ value here bucket, Bucket.ofJson value = .ok bucket →
      Outcome.StopsAtFirst Place.Before (inside here bucket)
        ((visit.branch slot value).Defect here))
    (values : List Json) (first : Nat) :
    Outcome.StopsAtFirst Place.Before (bucketRows id path inside first values)
      fun place failure => ∃ number value, values[number]? = some value ∧
        visit.BucketDefect path slot ⟨id, first + number⟩ value place
          failure := by
  induction values generalizing first with
  | nil => exact ⟨by simp, nofun⟩
  | cons value rest ih =>
      rw [bucketRows_cons]
      have here : Outcome.StopsAtFirst Place.Before
          ((Bucket.ofJson value).mapError
            (DecodeError.malformedBucket id (path ++ [⟨id, first⟩])))
          fun place failure => place = ⟨[⟨id, first⟩], 0⟩ ∧
            ∃ fault, Bucket.ofJson value = .error fault ∧
              failure = .malformedBucket id (path ++ [⟨id, first⟩]) fault :=
        Outcome.stopsAtFirst_at (Place.not_before_self _)
          fun _ => Outcome.mapError_eq_error_iff
      have ordered : ∀ (place : Place) number other failure,
          visit.BucketDefect path slot ⟨id, first + 1 + number⟩ other place
            failure →
          ∀ inner : Place, ¬place.Before (inner.within ⟨id, first⟩) := by
        intro place number other failure defect inner
        rcases defect.exists_within with ⟨inside, rfl⟩
        exact Place.not_later_before (by simp; omega) inner inside
      -- The bucket itself, then what is inside it, then the buckets behind it.
      apply (here.bind (fun bucket read =>
        ((each value _ bucket (Outcome.mapError_eq_ok_iff.mp read)).move
          (Place.within ⟨id, first⟩) fun _ _ => Place.before_of_within).bind
            (fun rows _ => (ih (first + 1)).map (rows ++ ·)) ?_) ?_).congr
      · exact fun _ _ => exists_bucketDefect_cons_iff
      · rintro _ _ other another ⟨rfl, _⟩
          (⟨inner, rfl, _⟩ | ⟨number, found, _, defect⟩)
        · exact Place.not_within_before _ inner
        · exact ordered other number found another defect ⟨[], 0⟩
      · rintro _ _ other another ⟨inner, rfl, _⟩ ⟨number, found, _, defect⟩
        exact ordered other number found another defect inner

/-- A level with a grouping is decoded up to the first defect of it or inside. -/
theorem stopsAtFirst_of_grouped {visit : Visit} {id : String} {slot : Slot}
    {below : Levels} (grouped : visit.slots.grouping? = some (id, slot))
    (inside : ∀ (row : Row) value here bucket, Bucket.ofJson value = .ok bucket →
      Outcome.StopsAtFirst Place.Before
        (levelRows overrides below bucket.answers (.ok bucket.docCount) here
          (Keyed.insert (overrides.column .main slot.position)
            (overrides.keyCell .main slot.position bucket.key) row))
        ((visit.branch slot value).Defect here))
    (row : Row) :
    Outcome.StopsAtFirst Place.Before
      (levelRows overrides
        (.grouped (Slots.values visit.slots) id slot.position below)
        visit.scope.answers visit.scope.counted path row)
      (visit.Defect path) := by
  have listing : Outcome.StopsAtFirst Place.Before
      (visit.scope.answers.buckets id path)
      fun place failure =>
        place = ⟨[], (visit.slots.ofAxis .value).length + 1⟩ ∧
          visit.scope.ListDefect path id failure :=
    Outcome.stopsAtFirst_at (Place.not_before_self _)
      fun _ => Scope.buckets_eq_error_iff
  have walk : ∀ (row : Row) buckets,
      visit.scope.answers.buckets id path = .ok buckets →
      Outcome.StopsAtFirst Place.Before
        (bucketRows id path
          (fun here bucket =>
            levelRows overrides below bucket.answers (.ok bucket.docCount) here
              (Keyed.insert (overrides.column .main slot.position)
                (overrides.keyCell .main slot.position bucket.key) row))
          0 buckets)
        fun place failure => ∃ number value,
          (visit.scope.buckets id)[number]? = some value ∧
            visit.BucketDefect path slot ⟨id, number⟩ value place failure := by
    intro row buckets listed
    rw [Scope.buckets_of_listed (Scope.buckets_eq_ok_iff.mp listed)]
    simpa using bucketRows_stopsAtFirst (inside row) buckets 0
  rw [levelRows]
  apply ((visit.values_stopsAtFirst row).bind (fun row _ =>
    listing.bind (walk row) ?_) ?_).congr
  · exact fun _ _ => Visit.defect_iff_of_grouped grouped
  · rintro _ _ other another ⟨index, entry, there, rfl, _⟩
      (⟨rfl, _⟩ | ⟨number, value, _, defect⟩)
    · have smaller := (List.getElem?_eq_some_iff.mp there).1
      exact Place.not_level_before (by omega)
    · rcases defect.exists_within with ⟨inner, rfl⟩
      exact Place.not_within_before_level _ inner _
  · rintro _ _ other another ⟨rfl, _⟩ ⟨number, value, _, defect⟩
    rcases defect.exists_within with ⟨inner, rfl⟩
    exact Place.not_within_before_level _ inner _

/-- From any level on, the decoder stops at the first defect. -/
theorem levelRows_stopsAtFirst {visit : Visit} {levels : Levels}
    (shape : Slots.levels visit.slots = levels) (row : Row) :
    Outcome.StopsAtFirst Place.Before
      (levelRows overrides levels visit.scope.answers visit.scope.counted path
        row)
      (visit.Defect path) := by
  -- No failure depends on the row, so the row is arbitrary on every level.
  induction levels generalizing visit path row with
  | innermost values =>
      rcases Slots.grouping?_of_innermost shape with ⟨innermost, rfl⟩
      apply ((visit.values_stopsAtFirst row).map ([·])).congr
      exact fun _ _ => Visit.defect_iff_of_innermost innermost
  | grouped values id position below ih =>
      rcases Slots.grouping?_of_grouped shape with
        ⟨slot, grouped, rfl, rfl, deeper⟩
      apply stopsAtFirst_of_grouped grouped
      intro row value here bucket read
      rcases Bucket.ofJson_of_isBucket (Bucket.isBucket_of_ofJson read) with
        ⟨key, count, _, sized, same⟩
      rw [read] at same
      cases same
      have counted : (visit.branch slot value).scope.counted = .ok count := by
        simp [Visit.branch, Scope.counted, sized]
      have shape : Slots.levels (visit.branch slot value).slots = below :=
        deeper
      rw [← counted]
      exact ih shape _

end Walk

/-! ## Whole responses -/

theorem totalHits_ne_error {response : Json} {failure : DecodeError}
    (other : failure ≠ .missingTotalHits) :
    totalHits response ≠ .error failure := by
  intro failed
  unfold totalHits at failed
  split at failed
  · exact other (Except.error.inj failed).symm
  · dsimp only at failed
    split at failed
    · cases failed
    · exact other (Except.error.inj failed).symm

theorem totalHits_eq_counted (response : Json) :
    totalHits response = (Scope.root response).counted := by
  have counts := Scope.counts_root response
  unfold Scope.counted
  cases sized : (Scope.root response).size? with
  | some count => exact (counts count).mpr sized
  | none =>
      cases total : totalHits response with
      | ok count => simp [(counts count).mp total] at sized
      | error failure =>
          by_contra other
          exact totalHits_ne_error (by simpa using other) total

namespace DecodeError

/-- The place that a failure names, where it names one. -/
def path? : DecodeError → Option ResponsePath
  | .missingAggregation _ path => some path
  | .notABucketAggregation _ path => some path
  | .missingMetricValue _ path => some path
  | .malformedBucket _ path _ => some path
  | .missingTotalHits => none

end DecodeError

namespace Visit

variable {visit : Visit}

theorem LevelDefect.path? {path : ResponsePath} {stage : Nat}
    {failure : DecodeError} (defect : visit.LevelDefect path stage failure)
    (placed : failure ≠ .missingTotalHits) : failure.path? = some path := by
  cases defect with
  | value there defect =>
      cases defect with
      | noTotal => exact (placed rfl).elim
      | noAnswer => rfl
      | noValue => rfl
  | grouping grouped defect =>
      cases defect <;> rfl

/-- The path in a failure is that of the place where it is found. -/
theorem Defect.path? {place : Place} {failure : DecodeError}
    (defect : visit.Defect [] place failure)
    (placed : failure ≠ .missingTotalHits) :
    failure.path? = some place.steps := by
  cases defect with
  | level leads defect => exact defect.path? placed
  | bucket leads grouped listed faulty => rfl

end Visit

/--
Whatever the overrides, the slot map and the response are: decoding succeeds
only where the response has no defect.  Where it fails, the failure describes a
defect of the response, and no other defect comes before that one; unless it is
the number of all documents that is missing, the failure names the place of the
defect by the buckets on the way to it.
-/
theorem decode_stops_at_first_defect (overrides : Overrides) (slots : Slots)
    (response : Json) :
    (∀ rows, decode overrides slots response = .ok rows →
      ∀ place failure,
        ¬(Visit.root slots response).Defect [] place failure) ∧
    ∀ failure, decode overrides slots response = .error failure →
      ∃ place, (Visit.root slots response).Defect [] place failure ∧
        (∀ other another,
          (Visit.root slots response).Defect [] other another →
            ¬other.Before place) ∧
        (failure ≠ .missingTotalHits →
          failure.path?.map ResponsePath.text =
            some ("aggregations" ++ String.join (place.steps.map fun step =>
              "." ++ step.id ++ "[" ++ step.number.repr ++ "]"))) := by
  have walk : Outcome.StopsAtFirst Place.Before
      (decode overrides slots response)
      ((Visit.root slots response).Defect []) := by
    rw [decode, rootAnswers_eq, totalHits_eq_counted]
    have shape : Slots.levels (Visit.root slots response).slots =
        Slots.levels slots := rfl
    exact levelRows_stopsAtFirst shape []
  refine ⟨walk.succeeds, fun failure failed => ?_⟩
  rcases walk.fails failure failed with ⟨place, defect, first⟩
  refine ⟨place, defect, first, fun placed => ?_⟩
  rw [defect.path? placed]
  rfl

/-- A metric deep inside has no value; a bucket that comes later has faults. -/
theorem decode_stops_ordered :
    ∃ compiled,
      Sample.catalog.compile .standard .none Sample.ordered = .ok compiled ∧
        decode Sample.overrides compiled.slots Sample.faultyResponse =
          .error (.missingMetricValue "6" [⟨"0", 0⟩, ⟨"1", 0⟩, ⟨"2", 1⟩]) ∧
        ∃ place : Place,
          "aggregations" ++ String.join (place.steps.map fun step =>
            "." ++ step.id ++ "[" ++ step.number.repr ++ "]") =
              "aggregations.0[0].1[0].2[1]" ∧
            (Visit.root compiled.slots Sample.faultyResponse).Defect [] place
              (.missingMetricValue "6" [⟨"0", 0⟩, ⟨"1", 0⟩, ⟨"2", 1⟩]) ∧
            ∀ other another,
              (Visit.root compiled.slots Sample.faultyResponse).Defect [] other
                another → ¬other.Before place := by
  have fits :
      (Sample.catalog.compile .standard .none Sample.ordered).toOption.any
        (fun compiled =>
          decide (decode Sample.overrides compiled.slots Sample.faultyResponse =
            .error (.missingMetricValue "6" [⟨"0", 0⟩, ⟨"1", 0⟩, ⟨"2", 1⟩]))) =
          true := by
    decide +kernel
  rcases Outcome.exists_ok_of_any fits with ⟨compiled, compiles, fails⟩
  have failed := of_decide_eq_true fails
  rcases (decode_stops_at_first_defect Sample.overrides compiled.slots
      Sample.faultyResponse).2 _ failed with
    ⟨place, defect, first, named⟩
  refine ⟨compiled, compiles, failed, place, ?_, defect, first⟩
  exact (Option.some.inj (named nofun)).symm

end ChartQuery
