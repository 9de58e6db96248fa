import ChartQuery.Proofs.Decoding.Columns
import ChartQuery.Proofs.Decoding.Conforming
import ChartQuery.Proofs.Keyed

/-!
# Steps of the decoder

What the decoder makes of one level, step by step: the cells of the value slots,
the buckets of the grouping, one bucket after the other.  Each step is told by
what it reads in a scope, and a failed step by what is missing there.
-/

namespace ChartQuery

variable {scope : Scope} {docCount : Except DecodeError Json}
  {path : ResponsePath} {id : String}

/-! ## Cells -/

/-- The decoder knows the number of the documents of a scope. -/
def Scope.Counts (scope : Scope) (docCount : Except DecodeError Json) : Prop :=
  ∀ count, docCount = .ok count ↔ scope.size? = some count

theorem Scope.counts_ok {count : Json} (counted : scope.size? = some count) :
    scope.Counts (.ok count) := by
  intro other
  rw [counted, Except.ok.injEq, Option.some.injEq]

theorem Answers.metricValue_eq_ok_iff {answers : Answers} {value : Json} :
    answers.metricValue id path = .ok value ↔
      (Keyed.get? id answers).bind (Json.member? "value") = some value := by
  unfold Answers.metricValue Answers.find
  cases Keyed.get? id answers with
  | none => simp [bind, Except.bind]
  | some answer =>
      cases valued : answer.member? "value" with
      | none => simp [bind, Except.bind, valued]
      | some found => simp [bind, Except.bind, pure, Except.pure, valued]

theorem Answers.metricValue_eq_error_iff {answers : Answers}
    {failure : DecodeError} :
    answers.metricValue id path = .error failure ↔
      Keyed.get? id answers = none ∧ failure = .missingAggregation id path ∨
        ∃ answer, Keyed.get? id answers = some answer ∧
          answer.member? "value" = none ∧
          failure = .missingMetricValue id path := by
  unfold Answers.metricValue Answers.find
  cases Keyed.get? id answers with
  | none => simp [bind, Except.bind, eq_comm]
  | some answer =>
      cases valued : answer.member? "value" with
      | none => simp [bind, Except.bind, valued, eq_comm]
      | some found => simp [bind, Except.bind, pure, Except.pure, valued]

/-- A value slot is read, its cell put into the row, and then comes the next. -/
theorem valueCells_cons (overrides : Overrides) (answers : Answers)
    (docCount : Except DecodeError Json) (path : ResponsePath) (row : Row)
    (id : String) (position : Nat) (rest : List (String × Nat)) :
    valueCells overrides answers docCount path row ((id, position) :: rest) =
      ((if id = countId then docCount else answers.metricValue id path) >>=
        fun cell =>
          valueCells overrides answers docCount path
            (Keyed.insert (overrides.column .value position) cell row)
            rest) := by
  rw [valueCells]
  split <;> rfl

/-- A value slot is decoded when it has a cell, which is put into the row. -/
theorem valueCells_cons_eq_ok_iff (counts : scope.Counts docCount)
    {position : Nat} {rest : List (String × Nat)} {row result : Row} :
    valueCells .none scope.answers docCount path row
        ((id, position) :: rest) = .ok result ↔
      ∃ cell, scope.cell? id = some cell ∧
        valueCells .none scope.answers docCount path
          (Keyed.insert (Axis.value.label position) cell row) rest =
            .ok result := by
  have read : ∀ cell,
      (if id = countId then docCount else scope.answers.metricValue id path) =
        .ok cell ↔ scope.cell? id = some cell := by
    intro cell
    unfold Scope.cell?
    split
    · exact counts cell
    · exact Answers.metricValue_eq_ok_iff
  simp only [valueCells_cons, Outcome.bind_eq_ok_iff, read,
    Overrides.column_none]

/-- The cells of value slots, as far as there are any. -/
def Scope.cells (scope : Scope) (values : List (String × Nat)) :
    List (String × Json) :=
  values.filterMap fun slot =>
    (scope.cell? slot.1).map fun cell => (Axis.value.label slot.2, cell)

/-- Value slots are decoded when all have cells, which are inserted in order. -/
theorem valueCells_eq_ok_iff (counts : scope.Counts docCount)
    {values : List (String × Nat)} {row result : Row} :
    valueCells .none scope.answers docCount path row values = .ok result ↔
      (∀ slot ∈ values, ∃ cell, scope.cell? slot.1 = some cell) ∧
        result =
          (scope.cells values).foldl
            (fun row cell => Keyed.insert cell.1 cell.2 row) row := by
  induction values generalizing row with
  | nil => simp [valueCells, Scope.cells, eq_comm]
  | cons slot rest ih =>
      rcases slot with ⟨id, position⟩
      rw [valueCells_cons_eq_ok_iff counts, List.forall_mem_cons]
      constructor
      · rintro ⟨cell, here, later⟩
        rcases ih.mp later with ⟨each, made⟩
        exact ⟨⟨⟨cell, here⟩, each⟩, by simpa [Scope.cells, here] using made⟩
      · rintro ⟨⟨⟨cell, here⟩, each⟩, made⟩
        exact ⟨cell, here,
          ih.mpr ⟨each, by simpa [Scope.cells, here] using made⟩⟩

/-! ## Buckets -/

theorem Scope.buckets_eq_ok_iff {buckets : List Json} :
    scope.answers.buckets id path = .ok buckets ↔
      scope.listed? id = some buckets := by
  unfold Answers.buckets Answers.find Scope.listed?
  cases Keyed.get? id scope.answers with
  | none => simp [bind, Except.bind]
  | some answer =>
      cases listed : (answer.member? "buckets").bind Json.asArray? with
      | none => simp [bind, Except.bind, listed]
      | some found => simp [bind, Except.bind, pure, Except.pure, listed]

theorem Answers.buckets_eq_error_iff {answers : Answers}
    {failure : DecodeError} :
    answers.buckets id path = .error failure ↔
      Keyed.get? id answers = none ∧ failure = .missingAggregation id path ∨
        ∃ answer, Keyed.get? id answers = some answer ∧
          (answer.member? "buckets").bind Json.asArray? = none ∧
          failure = .notABucketAggregation id path := by
  unfold Answers.buckets Answers.find
  cases Keyed.get? id answers with
  | none => simp [bind, Except.bind, eq_comm]
  | some answer =>
      cases listed : (answer.member? "buckets").bind Json.asArray? with
      | none => simp [bind, Except.bind, listed, eq_comm]
      | some found =>
          simp [bind, Except.bind, pure, Except.pure, listed,
            -Option.bind_eq_none_iff]

theorem Bucket.isBucket_of_ofJson {value : Json} {bucket : Bucket}
    (read : Bucket.ofJson value = .ok bucket) : value.isBucket = true := by
  cases value with
  | object members =>
      cases keyed : Keyed.get? "key" members with
      | none => simp [Bucket.ofJson, keyed] at read
      | some key =>
          cases counted :
              (Keyed.get? "doc_count" members).filter Json.isNumber with
          | none => simp [Bucket.ofJson, keyed, counted] at read
          | some docCount =>
              rcases Option.filter_eq_some_iff.mp counted with ⟨found, number⟩
              simp [Json.isBucket, Json.member?, keyed, found, number]
  | _ => cases read

/-- A bucket is read, then what is inside it, then the buckets behind it. -/
theorem bucketRows_cons (id : String) (path : ResponsePath)
    (inside : ResponsePath → Bucket → Except DecodeError (List Row))
    (number : Nat) (value : Json) (rest : List Json) :
    bucketRows id path inside number (value :: rest) =
      ((Bucket.ofJson value).mapError
          (.malformedBucket id (path ++ [⟨id, number⟩])) >>= fun bucket =>
        inside (path ++ [⟨id, number⟩]) bucket >>= fun here =>
          bucketRows id path inside (number + 1) rest >>= fun more =>
            .ok (here ++ more)) := by
  rw [bucketRows]
  cases Bucket.ofJson value <;> rfl

/-- Two runs give related rows if they do so bucket by bucket. -/
theorem bucketRows_related {relation : Row → Row → Prop}
    {same : Bucket → Bucket → Prop}
    {left right : ResponsePath → Bucket → Except DecodeError (List Row)}
    {lefts rights : List Json}
    (each : List.Forall₂
      (fun value other =>
        Outcome.Related same (Bucket.ofJson value) (Bucket.ofJson other))
      lefts rights)
    (inside : ∀ here bucket other, same bucket other →
      Outcome.Related (List.Forall₂ relation) (left here bucket)
        (right here other))
    (number : Nat) :
    Outcome.Related (List.Forall₂ relation)
      (bucketRows id path left number lefts)
      (bucketRows id path right number rights) := by
  induction each generalizing number with
  | nil => exact .ok .nil
  | cons read _ ih =>
      rw [bucketRows_cons, bucketRows_cons]
      apply (read.mapError _).bind
      intro bucket other agree
      apply (inside _ bucket other agree).bind
      intro here there rows
      apply (ih (number + 1)).bind
      intro more others later
      exact .ok (List.rel_append rows later)

/-- Buckets are decoded one after the other. -/
theorem bucketRows_cons_eq_ok_iff
    {inside : ResponsePath → Bucket → Except DecodeError (List Row)}
    {number : Nat} {value : Json} {rest : List Json} {rows : List Row} :
    bucketRows id path inside number (value :: rest) = .ok rows ↔
      ∃ bucket here more, Bucket.ofJson value = .ok bucket ∧
        inside (path ++ [⟨id, number⟩]) bucket = .ok here ∧
        bucketRows id path inside (number + 1) rest = .ok more ∧
        rows = here ++ more := by
  simp only [bucketRows_cons, Outcome.bind_eq_ok_iff,
    Outcome.mapError_eq_ok_iff, Except.ok.injEq]
  constructor
  · rintro ⟨bucket, parsed, here, walked, more, later, rfl⟩
    exact ⟨bucket, here, more, parsed, walked, later, rfl⟩
  · rintro ⟨bucket, here, more, parsed, walked, later, rfl⟩
    exact ⟨bucket, parsed, here, walked, more, later, rfl⟩

end ChartQuery
