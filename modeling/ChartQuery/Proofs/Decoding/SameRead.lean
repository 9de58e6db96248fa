import ChartQuery.Proofs.Decoding.Paths
import ChartQuery.Proofs.Decoding.Steps
import ChartQuery.Proofs.Json.Agreement

/-!
# Responses that are read alike

A decoder reads of a response only what a slot map leads to: on every level the
answers to the slots of that level, of an answer the value or the buckets, and
of a bucket the key and the number of documents besides.  `Slots.SameRead`
relates responses that agree on this, whatever else is in them, and the decoder
makes the same of both, be it rows or a failure.
-/

namespace ChartQuery

/-! ## Agreement on what is read -/

/--
Two buckets that agree on their own fields and on the answers to some
identifiers.
-/
def Json.SameBucket (ids : List String)
    (inside : String → Json → Json → Prop) : Json → Json → Prop :=
  Json.AgreeOn (fun key => key = "key" ∨ key = "doc_count" ∨ key ∈ ids)
    fun key left right =>
      if key = "key" ∨ key = "doc_count" then left = right
      else inside key left right

mutual
/-- Two answers that agree on what is read of them for a slot. -/
def Slot.SameAnswer : Slot → Json → Json → Prop
  | .at .value _ _ => Json.AgreeOn (· = "value") fun _ => Eq
  | .at .main _ below =>
      Json.AgreeOn (· = "buckets") fun _ =>
        Json.AgreeElements
          (Json.SameBucket (Keyed.keys below) (Slots.SameFor below))

/-- Two answers to an identifier, for all slots of a level that have it. -/
def Slots.SameFor : List (String × Slot) → String → Json → Json → Prop
  | [], _, _, _ => True
  | (other, slot) :: rest, id, left, right =>
      (other = id → slot.SameAnswer left right) ∧
        Slots.SameFor rest id left right
end

/-- Two responses that agree on what is read of them for a slot map. -/
def Slots.SameRead (slots : Slots) : Json → Json → Prop :=
  Json.AgreeOn (fun key => key = "aggregations" ∨ key = "hits")
    fun key left right =>
      if key = "hits" then
        Json.AgreeOn (· = "total")
          (fun _ => Json.AgreeOn (· = "value") fun _ => Eq) left right
      else
        Json.AgreeOn (· ∈ Keyed.keys slots) (Slots.SameFor slots) left right

instance {ids : List String} {inside : String → Json → Json → Prop}
    [∀ key first second, Decidable (inside key first second)]
    (left right : Json) :
    Decidable (Json.SameBucket ids inside left right) := by
  unfold Json.SameBucket
  infer_instance

mutual
/-- Agreement on answers can be decided. -/
def Slot.decideSameAnswer : (slot : Slot) → (left right : Json) →
    Decidable (slot.SameAnswer left right)
  | .at .value _ _, left, right =>
      inferInstanceAs
        (Decidable (Json.AgreeOn (· = "value") (fun _ => Eq) left right))
  | .at .main _ below, left, right =>
      have := Slots.decideSameFor below
      inferInstanceAs (Decidable (Json.AgreeOn (· = "buckets")
        (fun _ => Json.AgreeElements
          (Json.SameBucket (Keyed.keys below) (Slots.SameFor below)))
        left right))

/-- Agreement on answers to one identifier can be decided. -/
def Slots.decideSameFor : (slots : List (String × Slot)) → (id : String) →
    (left right : Json) → Decidable (Slots.SameFor slots id left right)
  | [], _, _, _ => isTrue trivial
  | (other, slot) :: rest, id, left, right =>
      have := Slot.decideSameAnswer slot left right
      have := Slots.decideSameFor rest id left right
      inferInstanceAs (Decidable
        ((other = id → slot.SameAnswer left right) ∧
          Slots.SameFor rest id left right))
end

instance (slots : Slots) (left right : Json) :
    Decidable (slots.SameRead left right) := by
  have := Slots.decideSameFor slots
  unfold Slots.SameRead
  infer_instance

/-! ## Single slots -/

@[simp]
theorem Slot.sameAnswer_refl (slot : Slot) (answer : Json) :
    slot.SameAnswer answer answer := by
  rcases slot with ⟨_ | _, position, below⟩
  · exact .same answer
  · exact .same answer

theorem Slots.sameFor_iff {slots : Slots} {id : String} {left right : Json} :
    Slots.SameFor slots id left right ↔
      ∀ slot, (id, slot) ∈ slots → slot.SameAnswer left right := by
  induction slots with
  | nil => simp [Slots.SameFor]
  | cons entry rest ih =>
      rcases entry with ⟨other, first⟩
      rw [Slots.SameFor, ih]
      constructor
      · rintro ⟨here, later⟩ slot member
        rcases List.mem_cons.mp member with same | further
        · cases same
          exact here rfl
        · exact later slot further
      · intro each
        constructor
        · rintro rfl
          exact each first List.mem_cons_self
        · exact fun slot member => each slot (List.mem_cons_of_mem _ member)

theorem Slots.sameFor_refl (slots : Slots) (id : String) (answer : Json) :
    Slots.SameFor slots id answer answer :=
  Slots.sameFor_iff.mpr fun slot _ => slot.sameAnswer_refl answer

theorem Slots.sameAnswer_of_sameFor {slots : Slots} {id : String} {slot : Slot}
    (member : (id, slot) ∈ slots) {left right : Option Json}
    (same : Option.Rel (Slots.SameFor slots id) left right) :
    Option.Rel slot.SameAnswer left right :=
  Optional.rel_imp same fun _ _ agree => Slots.sameFor_iff.mp agree slot member

/-- Answers on a level that agree on what is read of them. -/
def Slots.AgreeUnder (slots : Slots) (left right : Answers) : Prop :=
  ∀ id slot, (id, slot) ∈ slots →
    Option.Rel slot.SameAnswer (Keyed.get? id left) (Keyed.get? id right)

theorem Slots.agreeUnder_refl (slots : Slots) (answers : Answers) :
    slots.AgreeUnder answers answers :=
  fun _ slot _ => Optional.rel_refl slot.sameAnswer_refl _

/-! ## Single steps -/

section Steps

variable {slots : Slots} {left right : Answers} {id : String}
  {path : ResponsePath} {slot : Slot}

theorem Answers.find_related {relation : Json → Json → Prop}
    (same : Option.Rel relation (Keyed.get? id left) (Keyed.get? id right)) :
    Outcome.Related relation (left.find id path) (right.find id path) := by
  unfold Answers.find
  rcases Optional.rel_cases same with
    ⟨noLeft, noRight⟩ | ⟨first, second, isLeft, isRight, related⟩
  · rw [noLeft, noRight]
    exact .error _
  · rw [isLeft, isRight]
    exact .ok related

theorem Answers.metricValue_eq (value : slot.axis = .value)
    (same : Option.Rel slot.SameAnswer (Keyed.get? id left)
      (Keyed.get? id right)) :
    left.metricValue id path = right.metricValue id path := by
  rcases slot with ⟨_ | _, position, below⟩
  · cases value
  · apply Outcome.Related.eq
    apply (Answers.find_related same).bind
    intro first second agree
    have valued : first.member? "value" = second.member? "value" :=
      Optional.eq_of_rel (agree.member? (fun _ => rfl) rfl)
    rw [valued]
    exact Outcome.related_self _

theorem Json.sameBucket_refl (bucket : Json) :
    Json.SameBucket (Keyed.keys slots) (Slots.SameFor slots) bucket bucket :=
  .same bucket

theorem Answers.buckets_related (main : slot.axis = .main)
    (same : Option.Rel slot.SameAnswer (Keyed.get? id left)
      (Keyed.get? id right)) :
    Outcome.Related
      (List.Forall₂ (Json.SameBucket (Keyed.keys slot.children)
        (Slots.SameFor slot.children)))
      (left.buckets id path) (right.buckets id path) := by
  rcases slot with ⟨_ | _, position, below⟩
  · apply (Answers.find_related same).bind
    intro first second agree
    have listed := Optional.rel_bind
      (agree.member? (fun _ => .same _) rfl)
      fun _ _ elements => elements.asArray? Json.sameBucket_refl
    rcases Optional.rel_cases listed with
      ⟨noLeft, noRight⟩ | ⟨_, _, isLeft, isRight, related⟩
    · rw [noLeft, noRight]
      exact .error _
    · rw [isLeft, isRight]
      exact .ok related
  · cases main

/-- What is read of a bucket is the same, or agrees for the slots inside it. -/
theorem Bucket.ofJson_related {value other : Json}
    (same : Json.SameBucket (Keyed.keys slots) (Slots.SameFor slots) value
      other) :
    Outcome.Related
      (fun first second => first.key = second.key ∧
        first.docCount = second.docCount ∧
        slots.AgreeUnder first.answers second.answers)
      (Bucket.ofJson value) (Bucket.ofJson other) := by
  cases same with
  | same =>
      cases read : Bucket.ofJson value with
      | error fault => exact .error fault
      | ok bucket =>
          exact .ok ⟨rfl, rfl, Slots.agreeUnder_refl slots bucket.answers⟩
  | @objects first second members =>
      have own : ∀ key, key = "key" ∨ key = "doc_count" →
          Keyed.get? key first = Keyed.get? key second := by
        intro key named
        have related := members key (by tauto)
        simp only [if_pos named] at related
        exact Optional.eq_of_rel related
      have answers : slots.AgreeUnder first second := by
        intro id slot member
        -- A slot may have the name of a field, which is the same on both sides.
        by_cases named : id = "key" ∨ id = "doc_count"
        · rw [own id named]
          exact Slots.agreeUnder_refl slots second id slot member
        · have related := members id
            (Or.inr (Or.inr (Keyed.mem_keys member)))
          simp only [if_neg named] at related
          exact Slots.sameAnswer_of_sameFor member related
      simp only [Bucket.ofJson, own "key" (Or.inl rfl),
        own "doc_count" (Or.inr rfl)]
      cases Keyed.get? "key" second with
      | none => exact .error _
      | some key =>
          cases (Keyed.get? "doc_count" second).filter Json.isNumber with
          | none => exact .error _
          | some docCount => exact .ok ⟨rfl, rfl, answers⟩

end Steps

/-! ## All levels -/

section Levels

variable {overrides : Overrides} {left right : Answers} {path : ResponsePath}

theorem valueCells_eq {values : List (String × Nat)}
    (docCount : Except DecodeError Json) (row : Row)
    (each : ∀ slot ∈ values,
      left.metricValue slot.1 path = right.metricValue slot.1 path) :
    valueCells overrides left docCount path row values =
      valueCells overrides right docCount path row values := by
  induction values generalizing row with
  | nil => rfl
  | cons slot rest ih =>
      rcases slot with ⟨id, position⟩
      rcases List.forall_mem_cons.mp each with ⟨here, later⟩
      rw [valueCells_cons, valueCells_cons, here]
      simp only [ih _ later]

theorem valueCells_eq_of_agreeUnder {slots : Slots}
    (agree : slots.AgreeUnder left right) (docCount : Except DecodeError Json)
    (row : Row) :
    valueCells overrides left docCount path row (Slots.values slots) =
      valueCells overrides right docCount path row (Slots.values slots) := by
  apply valueCells_eq
  rw [Slots.values_eq_ofAxis, List.forall_mem_map]
  rintro ⟨id, slot⟩ member
  rcases Slots.mem_ofAxis.mp member with ⟨there, value⟩
  exact Answers.metricValue_eq value (agree id slot there)

/-- From any level on, both runs give the same. -/
theorem levelRows_related_of_agreeUnder {slots : Slots} {levels : Levels}
    (shape : Slots.levels slots = levels) (agree : slots.AgreeUnder left right)
    (docCount : Except DecodeError Json) (row : Row) :
    Outcome.Related (List.Forall₂ Eq)
      (levelRows overrides levels left docCount path row)
      (levelRows overrides levels right docCount path row) := by
  induction levels generalizing slots left right path docCount row with
  | innermost values =>
      rcases Slots.grouping?_of_innermost shape with ⟨_, rfl⟩
      rw [levelRows, levelRows, valueCells_eq_of_agreeUnder agree]
      apply (Outcome.related_self _).bind
      rintro row _ rfl
      exact .ok (.cons rfl .nil)
  | grouped values id position below ih =>
      rcases Slots.grouping?_of_grouped shape with
        ⟨slot, grouped, rfl, rfl, deeper⟩
      rcases Slots.mem_of_grouping? grouped with ⟨there, main⟩
      rw [levelRows, levelRows, valueCells_eq_of_agreeUnder agree]
      apply (Outcome.related_self _).bind
      rintro row _ rfl
      apply (Answers.buckets_related main (agree id slot there)).bind
      intro buckets others same
      apply bucketRows_related (same.imp fun _ _ => Bucket.ofJson_related)
      -- Inside a bucket both runs go on with the same row and the same number.
      rintro here first second ⟨keys, counts, answers⟩
      rw [keys, counts]
      exact ih deeper answers _ _

end Levels

/-! ## Whole responses -/

section Responses

variable {slots : Slots} {left right : Json}

theorem Slots.SameRead.hits (same : slots.SameRead left right) :
    Option.Rel
      (Json.AgreeOn (· = "total")
        fun _ => Json.AgreeOn (· = "value") fun _ => Eq)
      (left.member? "hits") (right.member? "hits") := by
  cases same with
  | same => exact Optional.rel_refl .same _
  | objects members => simpa [Json.member?] using members "hits" (Or.inr rfl)

theorem Slots.SameRead.answers (same : slots.SameRead left right) :
    Option.Rel (Json.AgreeOn (· ∈ Keyed.keys slots) (Slots.SameFor slots))
      (left.member? "aggregations") (right.member? "aggregations") := by
  cases same with
  | same => exact Optional.rel_refl .same _
  | objects members =>
      simpa [Json.member?] using members "aggregations" (Or.inl rfl)

theorem totalHits_eq_of_sameRead (same : slots.SameRead left right) :
    totalHits left = totalHits right := by
  have total := Optional.rel_bind same.hits fun _ _ hits =>
    hits.member? .same rfl
  unfold totalHits
  rcases Optional.rel_cases total with
    ⟨noLeft, noRight⟩ | ⟨first, second, isLeft, isRight, agree⟩
  · rw [noLeft, noRight]
  · rw [isLeft, isRight]
    cases agree with
    | same => rfl
    | @objects entries others members =>
        have valued : Keyed.get? "value" entries = Keyed.get? "value" others :=
          Optional.eq_of_rel (members "value" rfl)
        cases found : Keyed.get? "value" others with
        | none => simp [Json.member?, valued, found, Json.isNumber]
        | some value => simp [Json.member?, valued, found]

theorem rootAnswers_agreeUnder (same : slots.SameRead left right) :
    slots.AgreeUnder (rootAnswers left) (rootAnswers right) := by
  unfold rootAnswers
  rcases Optional.rel_cases same.answers with
    ⟨noLeft, noRight⟩ | ⟨first, second, isLeft, isRight, agree⟩
  · rw [noLeft, noRight]
    exact Slots.agreeUnder_refl _ _
  · rw [isLeft, isRight]
    cases agree with
    | same => exact Slots.agreeUnder_refl _ _
    | objects members =>
        intro id slot member
        exact Slots.sameAnswer_of_sameFor member
          (members id (Keyed.mem_keys member))

/-- Decoding makes the same of responses that agree on what is read of them. -/
theorem decode_eq_of_sameRead (overrides : Overrides)
    (same : slots.SameRead left right) :
    decode overrides slots left = decode overrides slots right := by
  have related : Outcome.Related (List.Forall₂ Eq)
      (decode overrides slots left) (decode overrides slots right) := by
    rw [decode, decode, totalHits_eq_of_sameRead same]
    exact levelRows_related_of_agreeUnder rfl (rootAnswers_agreeUnder same) _ _
  rw [List.forall₂_eq_eq_eq] at related
  exact related.eq

end Responses

end ChartQuery
