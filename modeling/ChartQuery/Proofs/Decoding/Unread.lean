import ChartQuery.Proofs.Compilation.Layout
import ChartQuery.Proofs.Decoding.SameRead

/-!
# What decoding does not read

In a chart that compiles, an aggregation that no entry asks for has no slot, and
its identifier is a number, like that of any other aggregation.  So its answers
are not among what is read: they may be anything, or missing, and the decoder
does not notice.
-/

namespace ChartQuery

/-! ## Auxiliary aggregations -/

/--
The aggregations inside a number of groupings that no entry of the chart asks
for: neither the grouping of the next main entry nor, inside all groupings, a
metric of the value axis.  They are there to sort by.
-/
def Catalog.auxiliaryIds (catalog : Catalog) (chart : Chart)
    (compiled : CompiledChart) (depth : Nat) : List String :=
  (Keyed.keys ((compiled.request.aggregations.levelAt? depth).getD [])).filter
    fun id =>
      if depth < (chart.entries .main).length then id ≠ depth.repr
      else id ∉ Keyed.keys (catalog.metricsOf chart)

/--
Answers that are the same, through a number of groupings inwards, but for those
to some identifiers on each level.
-/
def Json.SameBesides (ids : Nat → List String) (depth : Nat) :
    Nat → Json → Json → Prop
  | 0 => Json.AgreeOn (· ∉ ids depth) fun _ => Eq
  | more + 1 =>
      Json.AgreeOn (· ∉ ids depth) <|
        Json.RelatedAt depth.repr <|
          Json.AgreeOn (fun _ => True) <|
            Json.RelatedAt "buckets" <|
              Json.AgreeElements (Json.SameBesides ids (depth + 1) more)

/-- Responses that differ only in the answers to auxiliary aggregations. -/
def Catalog.SameResults (catalog : Catalog) (chart : Chart)
    (compiled : CompiledChart) : Json → Json → Prop :=
  Json.AgreeOn (fun _ => True) <|
    Json.RelatedAt "aggregations" <|
      Json.SameBesides (catalog.auxiliaryIds chart compiled) 0
        (chart.entries .main).length

/-- Agreement besides some identifiers can be decided. -/
instance Json.decideSameBesides (ids : Nat → List String) (depth : Nat) :
    (more : Nat) → (left right : Json) →
      Decidable (Json.SameBesides ids depth more left right)
  | 0, left, right =>
      inferInstanceAs
        (Decidable (Json.AgreeOn (· ∉ ids depth) (fun _ => Eq) left right))
  | more + 1, left, right => by
      have := decideSameBesides ids (depth + 1) more
      unfold Json.SameBesides
      infer_instance

instance (catalog : Catalog) (chart : Chart) (compiled : CompiledChart)
    (left right : Json) :
    Decidable (catalog.SameResults chart compiled left right) := by
  unfold Catalog.SameResults
  infer_instance

theorem key_ne_repr (number : Nat) : "key" ≠ number.repr := by
  have letter : 'k' ∈ "key".toList := by decide
  exact ne_repr_of_mem letter (by decide) number

theorem docCount_ne_repr (number : Nat) : "doc_count" ≠ number.repr := by
  have letter : 'd' ∈ "doc_count".toList := by decide
  exact ne_repr_of_mem letter (by decide) number

section Nested

variable {settings : CompilerSettings} {measures : List Measure}
  {firstMetric : Nat} {ids : Nat → List String}

/-- Nested levels are read alike if nothing that is read there is left out. -/
theorem sameBucket_of_sameBesides {depth : Nat} {groupings : List Grouping}
    {aggregations : Aggregations} {slots : Slots} {left right : Json}
    (nested : nest settings measures firstMetric depth groupings =
      .ok (aggregations, slots))
    (own : ∀ further ≤ depth + groupings.length,
      "key" ∉ ids further ∧ "doc_count" ∉ ids further)
    (mains : ∀ further < depth + groupings.length,
      further.repr ∉ ids further)
    (values : ∀ id ∈ Keyed.keys (innermostSlots firstMetric measures),
      id ∉ ids (depth + groupings.length))
    (same : Json.SameBesides ids depth groupings.length left right) :
    Json.SameBucket (Keyed.keys slots) (Slots.SameFor slots) left right := by
  induction groupings generalizing depth aggregations slots left right with
  | nil =>
      cases nested
      apply same.mono
      · rintro key (rfl | rfl | member)
        · exact (own depth le_rfl).1
        · exact (own depth le_rfl).2
        · exact values key member
      · rintro key _ first _ rfl
        split
        · rfl
        · exact Slots.sameFor_refl _ _ _
  | cons grouping rest ih =>
      rcases nest_cons_eq_ok_iff.mp nested with
        ⟨below, inner, order, after, deeper, _, rfl, rfl⟩
      have inwards : depth + (grouping :: rest).length =
          depth + 1 + rest.length := by
        rw [List.length_cons]
        omega
      rw [inwards] at own mains values
      have only : ∀ {key : String},
          key ∈ Keyed.keys [(depth.repr, Slot.main depth inner)] →
          key = depth.repr := fun member => by simpa [Keyed.keys] using member
      apply same.mono
      · rintro key (rfl | rfl | member)
        · exact (own depth (by omega)).1
        · exact (own depth (by omega)).2
        · rw [only member]
          exact mains depth (by omega)
      · intro key reads first second related
        split
        · rename_i named
          apply related.eq
          rcases named with rfl | rfl
          · exact key_ne_repr depth
          · exact docCount_ne_repr depth
        · rename_i free
          have named : key = depth.repr :=
            only (by simpa only [← or_assoc, free, false_or] using reads)
          subst named
          have answers := Json.relatedAt_self_iff.mp related
          -- The answer to the grouping; only its buckets are read.
          refine ⟨fun _ => answers.mono (fun _ _ => trivial) ?_, trivial⟩
          rintro _ rfl answer other listed
          exact (Json.relatedAt_self_iff.mp listed).mono fun _ _ inside =>
            ih deeper own mains values inside

end Nested

section Charts

variable {catalog : Catalog} {settings : CompilerSettings}
  {options : CompileOptions} {chart : Chart} {compiled : CompiledChart}

theorem not_mem_auxiliaryIds_of_ne_repr
    (compiles : catalog.compile settings options chart = .ok compiled)
    {depth : Nat} (inside : depth ≤ (chart.entries .main).length) {id : String}
    (text : ∀ number : Nat, id ≠ number.repr) :
    id ∉ catalog.auxiliaryIds chart compiled depth := by
  intro member
  have held := (List.mem_filter.mp member).1
  cases reached : compiled.request.aggregations.levelAt? depth with
  | none =>
      rw [reached] at held
      cases held
  | some level =>
      rw [reached, Option.getD_some] at held
      rcases Catalog.exists_number_of_compile compiles inside reached held with
        ⟨number, numbered⟩
      exact text number numbered

/-- The slots of the value axis stand for what the entries ask for. -/
theorem not_mem_auxiliaryIds_of_slot
    (compiles : catalog.compile settings options chart = .ok compiled)
    {measures : List Measure}
    (values : resolveAll catalog.measure (chart.entries .value) = .ok measures)
    {id : String}
    (slotted : id ∈ Keyed.keys
      (innermostSlots ((chart.entries .main).length + 1) measures)) :
    id ∉ catalog.auxiliaryIds chart compiled (chart.entries .main).length := by
  intro member
  rcases List.mem_map.mp slotted with ⟨⟨_, slot⟩, held, rfl⟩
  rcases mem_innermostSlots held with
    ⟨position, ⟨entry, kind?⟩, there, named, _⟩
  cases kind? with
  | none =>
      rw [named, Measure.slotId_count rfl] at member
      exact not_mem_auxiliaryIds_of_ne_repr compiles le_rfl countId_ne_repr
        member
  | some kind =>
      have asked : metrics ((chart.entries .main).length + 1) measures =
          catalog.metricsOf chart := metrics_of_resolveAll values _ 0
      have unasked := (List.mem_filter.mp member).2
      rw [if_neg (lt_irrefl _), decide_eq_true_iff, ← asked] at unasked
      apply unasked
      exact Keyed.mem_keys
        (mem_metrics.mpr ⟨position, entry, kind, there, named, rfl⟩)

theorem repr_not_mem_auxiliaryIds {depth : Nat}
    (inside : depth < (chart.entries .main).length) :
    depth.repr ∉ catalog.auxiliaryIds chart compiled depth := by
  simp [Catalog.auxiliaryIds, inside]

/-- What is read of the aggregations is none of the auxiliary answers. -/
theorem sameBucket_of_auxiliary
    (compiles : catalog.compile settings options chart = .ok compiled)
    {left right : Json}
    (same : Json.SameBesides (catalog.auxiliaryIds chart compiled) 0
      (chart.entries .main).length left right) :
    Json.SameBucket (Keyed.keys compiled.slots) (Slots.SameFor compiled.slots)
      left right := by
  rcases Catalog.compile_eq_ok_iff.mp compiles with
    ⟨groupings, measures, aggregations, slots, mains, values, nested, made⟩
  have count : (chart.entries .main).length = groupings.length :=
    (resolveAll_eq_ok_iff.mp mains).length_eq
  have slotted : compiled.slots = slots := by rw [made]
  rw [← count] at nested
  rw [count] at same
  rw [slotted]
  apply sameBucket_of_sameBesides nested ?_ ?_ ?_ same
  · intro depth inside
    rw [Nat.zero_add, ← count] at inside
    exact ⟨not_mem_auxiliaryIds_of_ne_repr compiles inside key_ne_repr,
      not_mem_auxiliaryIds_of_ne_repr compiles inside docCount_ne_repr⟩
  · intro depth inside
    rw [Nat.zero_add, ← count] at inside
    exact repr_not_mem_auxiliaryIds inside
  · rw [Nat.zero_add, ← count]
    exact fun _ => not_mem_auxiliaryIds_of_slot compiles values

/-- In a compiled chart an auxiliary aggregation is nothing that is read. -/
theorem sameRead_of_sameResults
    (compiles : catalog.compile settings options chart = .ok compiled)
    {left right : Json} (same : catalog.SameResults chart compiled left right) :
    compiled.slots.SameRead left right := by
  apply same.mono (fun _ _ => trivial)
  intro key reads first second related
  split
  · rename_i hits
    subst hits
    rw [related.eq (by decide)]
    exact .same second
  · rename_i other
    have named : key = "aggregations" := reads.resolve_right other
    subst named
    apply (sameBucket_of_auxiliary compiles
      (Json.relatedAt_self_iff.mp related)).mono
    · exact fun _ member => Or.inr (Or.inr member)
    · intro id _ answer another agree
      split at agree
      · rw [agree]
        exact Slots.sameFor_refl _ _ _
      · exact agree

end Charts

/--
What a response holds besides what a slot map leads to makes no difference:
decoding gives the same rows or the same failure, whatever the overrides are.
For a compiled chart this covers all answers to auxiliary aggregations.
-/
theorem decode_ignores_unread (overrides : Overrides) (left right : Json) :
    (∀ slots : Slots, slots.SameRead left right →
      decode overrides slots left = decode overrides slots right) ∧
    ∀ catalog settings options chart compiled,
      Catalog.compile catalog settings options chart = .ok compiled →
      catalog.SameResults chart compiled left right →
        decode overrides compiled.slots left =
          decode overrides compiled.slots right := by
  constructor
  · exact fun _ same => decode_eq_of_sameRead overrides same
  · intro catalog settings options chart compiled compiles same
    exact decode_eq_of_sameRead overrides
      (sameRead_of_sameResults compiles same)

/-- One response says more than is read, another not what a grouping sorts by. -/
theorem decode_ignores_unread_samples :
    (∃ compiled,
      Sample.catalog.compile .standard .none Sample.twoCounts = .ok compiled ∧
        compiled.slots.SameRead Sample.countsResponse Sample.verboseResponse ∧
        decode Sample.overrides compiled.slots Sample.countsResponse =
          decode Sample.overrides compiled.slots Sample.verboseResponse) ∧
    ∃ compiled,
      Sample.catalog.compile .standard .none Sample.ordered = .ok compiled ∧
        Sample.catalog.SameResults Sample.ordered compiled
          Sample.orderedResponse Sample.unsortedResponse ∧
        decode Sample.overrides compiled.slots Sample.orderedResponse =
          decode Sample.overrides compiled.slots Sample.unsortedResponse := by
  have verbose :
      (Sample.catalog.compile .standard .none Sample.twoCounts).toOption.any
        (fun compiled => decide (compiled.slots.SameRead Sample.countsResponse
          Sample.verboseResponse)) = true := by
    decide +kernel
  have unsorted :
      (Sample.catalog.compile .standard .none Sample.ordered).toOption.any
        (fun compiled => decide (Sample.catalog.SameResults Sample.ordered
          compiled Sample.orderedResponse Sample.unsortedResponse)) = true := by
    decide +kernel
  rcases Outcome.exists_ok_of_any verbose with ⟨plain, plainCompiles, reads⟩
  rcases Outcome.exists_ok_of_any unsorted with ⟨sorted, compiles, results⟩
  have sameRead := of_decide_eq_true reads
  have sameResults := of_decide_eq_true results
  exact
    ⟨⟨plain, plainCompiles, sameRead,
      (decode_ignores_unread Sample.overrides _ _).1 _ sameRead⟩,
    ⟨sorted, compiles, sameResults,
      (decode_ignores_unread Sample.overrides _ _).2 _ _ _ _ _ compiles
        sameResults⟩⟩

end ChartQuery
