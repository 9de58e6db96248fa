import ChartQuery.Proofs.Compilation.InnermostSlots
import ChartQuery.Proofs.Compilation.Nesting
import ChartQuery.Proofs.Sample

/-!
# Parity of requests and slot maps

A compiled chart holds two trees: the aggregations of the request and the slot
map.  `LevelParity` says how one level of both fits together, and `Parity` that
every level does, from some depth inwards.  The main statement is that every
chart that compiles has this parity from the root on.

The proof goes along the groupings, from the inside out.  What a level is
nested into is not known while it is built; a level that stands alone has a
slot for every aggregation, and the grouping around it can only add one metric
that its own sort clause names.
-/

namespace ChartQuery

/-- An aggregation of a level that has no slot. -/
def Unslotted (aggregations : Aggregations) (slots : Slots) (id : String) :
    Prop :=
  id ∈ Keyed.keys aggregations ∧ id ∉ Keyed.keys slots

/-- One level of a request and of its slot map, below the operator `enclosing`. -/
structure LevelParity (depth : Nat) (enclosing : Option Operator)
    (aggregations : Aggregations) (slots : Slots) : Prop where
  /-- No identifier is used twice. -/
  distinct : Keyed.Distinct aggregations ∧ Keyed.Distinct slots
  /-- The identifier of counts is not used for an aggregation. -/
  count : countId ∉ Keyed.keys aggregations
  /-- A main slot stands beside a grouping and has the number of the depth. -/
  main : ∀ id slot, (id, slot) ∈ slots → slot.axis = .main →
    id = depth.repr ∧ slot.position = depth ∧
      ∃ operator below, operator.isBucket = true ∧
        (id, .bucket operator below) ∈ aggregations
  /-- A value slot has nothing below it and, but for a count, is beside a metric. -/
  value : ∀ id slot, (id, slot) ∈ slots → slot.axis = .value →
    slot.children = [] ∧
      (id ≠ countId → ∃ kind field, (id, .metric kind field) ∈ aggregations)
  /-- An aggregation without a slot is a metric, and the only sort key around. -/
  auxiliary : ∀ id, Unslotted aggregations slots id →
    (∃ kind field, (id, .metric kind field) ∈ aggregations) ∧
      ∃ body direction,
        enclosing = some (.terms body) ∧ body.order = [(id, direction)]
  /-- There is at most one main slot. -/
  oneMain : ∀ left right, left ∈ slots → right ∈ slots →
    left.2.axis = .main → right.2.axis = .main → left = right
  /-- At most one aggregation has no slot. -/
  oneAuxiliary : ∀ left right, Unslotted aggregations slots left →
    Unslotted aggregations slots right → left = right

/-- Parity of a level and, below every grouping with a slot, of all that is inside. -/
inductive Parity :
    Nat → Option Operator → Aggregations → Slots → Prop where
  | level {depth : Nat} {enclosing : Option Operator}
      {aggregations : Aggregations} {slots : Slots}
      (here : LevelParity depth enclosing aggregations slots)
      (inside : ∀ id slot operator below, (id, slot) ∈ slots →
        slot.axis = .main → (id, .bucket operator below) ∈ aggregations →
        Parity (depth + 1) (some operator) below slot.children) :
      Parity depth enclosing aggregations slots

theorem Parity.here {depth : Nat} {enclosing : Option Operator}
    {aggregations : Aggregations} {slots : Slots}
    (parity : Parity depth enclosing aggregations slots) :
    LevelParity depth enclosing aggregations slots := by
  cases parity with
  | level here inside => exact here

/-! ## Levels that stand alone -/

section Levels

variable {depth : Nat} {aggregations : Aggregations} {slots : Slots}

/-- Outside of a grouping every aggregation has a slot. -/
theorem LevelParity.slotted
    (parity : LevelParity depth none aggregations slots) (id : String) :
    ¬Unslotted aggregations slots id := by
  intro unslotted
  rcases parity.auxiliary id unslotted with ⟨_, body, direction, impossible, _⟩
  cases impossible

/-- A level stays in parity when a grouping is put around it. -/
theorem LevelParity.enclose
    (parity : LevelParity depth none aggregations slots)
    (operator : Operator) :
    LevelParity depth (some operator) aggregations slots where
  distinct := parity.distinct
  count := parity.count
  main := parity.main
  value := parity.value
  auxiliary id unslotted := (parity.slotted id unslotted).elim
  oneMain := parity.oneMain
  oneAuxiliary := parity.oneAuxiliary

/-- A level stays in parity when the grouping around it adds its sort metric. -/
theorem LevelParity.add
    (parity : LevelParity depth none aggregations slots)
    {number : Nat} {kind : MetricKind} {field : Option String}
    {body : TermsBody} {direction : SortDirection}
    (free : Keyed.get? number.repr aggregations = none)
    (order : body.order = [(number.repr, direction)]) :
    LevelParity depth (some (.terms body))
      (aggregations ++ [(number.repr, .metric kind field)]) slots := by
  have absent : number.repr ∉ Keyed.keys aggregations :=
    (Keyed.get?_eq_none_iff _ _).mp free
  have kept : ∀ {id : String} {node : Aggregation}, (id, node) ∈ aggregations →
      (id, node) ∈ aggregations ++ [(number.repr, .metric kind field)] :=
    fun member => List.mem_append_left _ member
  have keys : Keyed.keys (aggregations ++ [(number.repr, .metric kind field)]) =
      Keyed.keys aggregations ++ [number.repr] := by
    simp [Keyed.keys]
  have only : ∀ id,
      Unslotted (aggregations ++ [(number.repr, .metric kind field)]) slots id →
        id = number.repr := by
    rintro id ⟨member, unslotted⟩
    rw [keys] at member
    rcases List.mem_append.mp member with old | new
    · exact (parity.slotted id ⟨old, unslotted⟩).elim
    · exact List.mem_singleton.mp new
  constructor
  · constructor
    · rw [← Keyed.insert_of_not_mem absent]
      exact parity.distinct.1.insert _ _
    · exact parity.distinct.2
  · rw [keys, List.mem_append, List.mem_singleton]
    rintro (old | new)
    · exact parity.count old
    · exact countId_ne_repr number new
  · intro id slot member main
    rcases parity.main id slot member main with
      ⟨named, position, operator, below, bucket, beside⟩
    exact ⟨named, position, operator, below, bucket, kept beside⟩
  · intro id slot member value
    rcases parity.value id slot member value with ⟨childless, metric⟩
    refine ⟨childless, fun noCount => ?_⟩
    rcases metric noCount with ⟨other, source, beside⟩
    exact ⟨other, source, kept beside⟩
  · intro id unslotted
    rw [only id unslotted]
    exact ⟨⟨kind, field, List.mem_append_right _ List.mem_cons_self⟩,
      body, direction, rfl, order⟩
  · exact parity.oneMain
  · intro left right leftUnslotted rightUnslotted
    rw [only left leftUnslotted, only right rightUnslotted]

/-- The innermost level: metrics beside their slots, and no grouping. -/
theorem levelParity_innermost (depth first : Nat) (measures : List Measure) :
    LevelParity depth none (metrics first measures)
      (innermostSlots first measures) := by
  have noMain : ∀ {id : String} {slot : Slot},
      (id, slot) ∈ innermostSlots first measures → slot.axis = .value := by
    intro id slot member
    rcases mem_innermostSlots member with ⟨position, measure, _, _, rfl⟩
    rfl
  have slotted : ∀ id,
      ¬Unslotted (metrics first measures) (innermostSlots first measures) id := by
    rintro id ⟨member, unslotted⟩
    rcases List.mem_map.mp member with ⟨⟨_, node⟩, found, rfl⟩
    rcases mem_metrics.mp found with ⟨position, entry, kind, there, named, _⟩
    apply unslotted
    rw [named]
    exact slotId_mem_keys_innermostSlots there
  constructor
  · exact ⟨distinct_metrics first measures,
      distinct_innermostSlots first measures⟩
  · intro member
    rcases List.mem_map.mp member with ⟨⟨id, node⟩, found, named⟩
    rcases mem_metrics.mp found with ⟨position, _, _, _, numbered, _⟩
    exact countId_ne_repr _ (named.symm.trans numbered)
  · intro id slot member main
    rw [noMain member] at main
    cases main
  · intro id slot member value
    rcases mem_innermostSlots member with
      ⟨position, ⟨entry, kind?⟩, found, rfl, rfl⟩
    refine ⟨rfl, fun noCount => ?_⟩
    cases kind? with
    | none => exact (noCount rfl).elim
    | some kind =>
        exact ⟨kind, entry.field,
          mem_metrics.mpr ⟨position, entry, kind, found, rfl, rfl⟩⟩
  · intro id unslotted
    exact (slotted id unslotted).elim
  · intro left right leftMember _ main _
    rw [noMain leftMember] at main
    cases main
  · intro left right unslotted _
    exact (slotted left unslotted).elim

/-- A level with a single grouping and its slot. -/
theorem levelParity_grouping (depth : Nat) {operator : Operator}
    (bucket : operator.isBucket = true) (below : Aggregations) (inner : Slots) :
    LevelParity depth none [(depth.repr, .bucket operator below)]
      [(depth.repr, .main depth inner)] := by
  have slotted : ∀ id,
      ¬Unslotted [(depth.repr, .bucket operator below)]
        [(depth.repr, .main depth inner)] id := by
    rintro id ⟨member, unslotted⟩
    exact unslotted (by simpa [Keyed.keys] using member)
  constructor
  · simp [Keyed.Distinct, Keyed.keys]
  · intro member
    exact countId_ne_repr depth (by simpa [Keyed.keys] using member)
  · intro id slot member _
    rcases Prod.mk.inj (List.mem_singleton.mp member) with ⟨rfl, rfl⟩
    exact ⟨rfl, rfl, operator, below, bucket, List.mem_cons_self⟩
  · intro id slot member value
    rcases Prod.mk.inj (List.mem_singleton.mp member) with ⟨rfl, rfl⟩
    cases value
  · intro id unslotted
    exact (slotted id unslotted).elim
  · intro left right leftMember rightMember _ _
    rw [List.mem_singleton.mp leftMember, List.mem_singleton.mp rightMember]
  · intro left right unslotted _
    exact (slotted left unslotted).elim

end Levels

/-! ## Whole trees -/

/-- A grouping around a tree in parity keeps it in parity, sorted or not. -/
theorem Parity.sorted
    {depth : Nat} {grouping : Grouping} {settings : CompilerSettings}
    {measures : List Measure} {firstMetric : Option Nat}
    {below after : Aggregations} {inner : Slots}
    {order : Keyed String SortDirection}
    (parity : Parity (depth + 1) none below inner)
    (sorted : grouping.sorted measures depth firstMetric below =
      .ok (order, after)) :
    Parity (depth + 1) (some (grouping.operator settings order)) after inner := by
  cases parity with
  | level here inside =>
      rcases Grouping.sorted_cases sorted with
        ⟨terms, sorting⟩ | ⟨_, _, rfl⟩
      · cases sorting with
        | standard absent =>
            exact .level (here.enclose _) inside
        | byCount asked =>
            exact .level (here.enclose _) inside
        | byCountEntry asked target =>
            exact .level (here.enclose _) inside
        | byPresent asked target present =>
            exact .level (here.enclose _) inside
        | @byAdded position direction other kind id asked target named free =>
            subst named
            have operator : ∃ body,
                grouping.operator settings
                    [((auxiliaryId depth position).repr, direction)] =
                  .terms body ∧
                body.order =
                  [((auxiliaryId depth position).repr, direction)] := by
              simp [Grouping.operator, terms]
            rcases operator with ⟨body, same, clause⟩
            rw [same]
            refine .level (here.add free clause) ?_
            intro id slot operator deeper member main beside
            -- The new aggregation is a metric, so a grouping was there before.
            rcases List.mem_append.mp beside with old | new
            · exact inside id slot operator deeper member main old
            · cases List.mem_singleton.mp new
      · exact .level (here.enclose _) inside

/-- Nested groupings are in parity with their slots. -/
theorem parity_nest
    {settings : CompilerSettings} {measures : List Measure}
    {firstMetric depth : Nat} {groupings : List Grouping}
    {aggregations : Aggregations} {slots : Slots}
    (nested : nest settings measures firstMetric depth groupings =
      .ok (aggregations, slots)) :
    Parity depth none aggregations slots := by
  induction groupings generalizing depth aggregations slots with
  | nil =>
      cases nested
      refine .level (levelParity_innermost depth firstMetric measures) ?_
      intro id slot operator below member main _
      have level := levelParity_innermost depth firstMetric measures
      rcases level.main id slot member main with ⟨_, _, _, _, _, beside⟩
      rcases mem_metrics.mp beside with ⟨_, _, _, _, _, impossible⟩
      cases impossible
  | cons grouping rest ih =>
      rcases nest_cons_eq_ok_iff.mp nested with
        ⟨below, inner, order, after, deeper, sorted, rfl, rfl⟩
      refine .level (levelParity_grouping depth
        (grouping.isBucket_operator settings order) after inner) ?_
      intro id slot operator children member main beside
      rcases Prod.mk.inj (List.mem_singleton.mp member) with ⟨rfl, rfl⟩
      have same := (Prod.mk.inj (List.mem_singleton.mp beside)).2
      cases same
      exact (ih deeper).sorted sorted

/--
The request and the slot map of a compiled chart are in parity from the root
on, and at the root every aggregation has a slot.
-/
theorem parity_compile
    {catalog : Catalog} {settings : CompilerSettings}
    {options : CompileOptions} {chart : Chart} {compiled : CompiledChart}
    (compiles : catalog.compile settings options chart = .ok compiled) :
    Parity 0 none compiled.request.aggregations compiled.slots ∧
      ∀ id ∈ Keyed.keys compiled.request.aggregations,
        id ∈ Keyed.keys compiled.slots := by
  rcases Catalog.compile_eq_ok_iff.mp compiles with
    ⟨groupings, measures, aggregations, slots, _, _, nested, rfl⟩
  have parity := parity_nest nested
  refine ⟨parity, fun id member => ?_⟩
  by_contra unslotted
  exact parity.here.slotted id ⟨member, unslotted⟩

/-- Three groupings, two of them sorted by a metric, over metrics and a count. -/
theorem parity_compile_ordered :
    ∃ compiled,
      Sample.catalog.compile .standard .none Sample.ordered = .ok compiled ∧
        Parity 0 none compiled.request.aggregations compiled.slots := by
  have succeeds :
      (Sample.catalog.compile .standard .none Sample.ordered).toBool = true := by
    decide +kernel
  rcases Outcome.exists_ok_of_toBool succeeds with ⟨compiled, compiles⟩
  exact ⟨compiled, compiles, (parity_compile compiles).1⟩

end ChartQuery
