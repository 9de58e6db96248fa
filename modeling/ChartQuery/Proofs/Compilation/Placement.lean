import ChartQuery.Proofs.Compilation.Sorting

/-!
# Places for auxiliary metrics

`placeAuxiliary` returns new siblings and, where a metric finds no place,
returns none at all.  `placing` works on the siblings in place instead, so there
is something to look at after a failure too.  The two agree.

Whatever comes of a placement, it keeps every sibling with its place, and all
that it ever adds is the metric itself, at the end and under the auxiliary
identifier.  It fails only where that identifier computes something else and the
metric does not stand under its own one; it leaves the siblings alone then.
-/

namespace ChartQuery

/-! ## Placing in place -/

/--
Give a metric a place among the siblings of the state, and return its
identifier.  What a failure leaves behind is part of the result.
-/
def placing (auxiliary : Nat) (own : Option Nat) (metric : Aggregation) :
    EStateM CompileError Aggregations String := do
  let siblings ← get
  match Keyed.get? auxiliary.repr siblings with
  | none =>
      set (Keyed.insert auxiliary.repr metric siblings)
      return auxiliary.repr
  | some existing =>
      if existing = metric then return auxiliary.repr
      else
        match (own.map Nat.repr).filter
            (fun id => Keyed.get? id siblings = some metric) with
        | some id => return id
        | none => throw (.aggregationIdCollision auxiliary.repr)

variable {siblings after : Aggregations} {auxiliary : Nat} {own : Option Nat}
  {metric : Aggregation}

/-- Working in place comes to the same, and a failure leaves the siblings alone. -/
theorem run_placing :
    (placing auxiliary own metric).run siblings =
      match placeAuxiliary siblings auxiliary own metric with
      | .ok (id, placed) => .ok id placed
      | .error failure => .error failure siblings := by
  unfold placing placeAuxiliary
  simp only [EStateM.run, bind, EStateM.bind, get, getThe, MonadStateOf.get, EStateM.get]
  cases taken : Keyed.get? auxiliary.repr siblings with
  | none =>
      -- The identifier is free, so that inserting puts the metric at the end.
      have absent := (Keyed.get?_eq_none_iff _ _).mp taken
      rw [← Keyed.insert_of_not_mem absent]
      rfl
  | some existing =>
      by_cases same : existing = metric
      · simp only [if_pos same]
        rfl
      · simp only [if_neg same]
        cases own with
        | none => rfl
        | some number =>
            by_cases there : Keyed.get? number.repr siblings = some metric
            · have kept : (some number.repr).filter
                  (fun id => Keyed.get? id siblings = some metric) =
                    some number.repr := by simp [there]
              simp only [Option.map_some, kept, if_pos there]
              rfl
            · have dropped : (some number.repr).filter
                  (fun id => Keyed.get? id siblings = some metric) = none := by
                simp [there]
              simp only [Option.map_some, dropped, if_neg there]
              rfl

theorem run_placing_eq_ok_iff {id : String} :
    (placing auxiliary own metric).run siblings = .ok id after ↔
      placeAuxiliary siblings auxiliary own metric = .ok (id, after) := by
  rw [run_placing]
  cases placeAuxiliary siblings auxiliary own metric with
  | ok placed => simp [Prod.ext_iff]
  | error failure => simp

theorem run_placing_eq_error_iff {failure : CompileError} :
    (placing auxiliary own metric).run siblings = .error failure after ↔
      after = siblings ∧
        placeAuxiliary siblings auxiliary own metric = .error failure := by
  rw [run_placing]
  cases placeAuxiliary siblings auxiliary own metric with
  | ok placed => simp
  | error other => simp [and_comm, eq_comm]

/-! ## What a placement leaves alone -/

/-- Every sibling keeps its place and its node, and identifiers stay distinct. -/
structure Keeps (before after : Aggregations) : Prop where
  entry : ∀ (position : Nat) (entry : String × Aggregation),
    before[position]? = some entry → after[position]? = some entry
  node : ∀ id node,
    Keyed.get? id before = some node → Keyed.get? id after = some node
  distinct : Keyed.Distinct before → Keyed.Distinct after

theorem keeps_self (siblings : Aggregations) : Keeps siblings siblings where
  entry _ _ found := found
  node _ _ found := found
  distinct distinct := distinct

theorem keeps_append {id : String} (free : Keyed.get? id siblings = none)
    (node : Aggregation) : Keeps siblings (siblings ++ [(id, node)]) where
  entry position entry found := by
    have inside := (List.getElem?_eq_some_iff.mp found).1
    rw [List.getElem?_append_left inside]
    exact found
  node other there found := by
    rw [Keyed.get?_append, found, Option.some_or]
  distinct distinct := by
    have absent := (Keyed.get?_eq_none_iff id siblings).mp free
    rw [← Keyed.insert_of_not_mem absent]
    exact distinct.insert id node

/-! ## Failures and successes -/

/-- A metric finds no place if something else has taken both of its places. -/
theorem placeAuxiliary_eq_error_iff {failure : CompileError} :
    placeAuxiliary siblings auxiliary own metric = .error failure ↔
      failure = .aggregationIdCollision auxiliary.repr ∧
        (∃ other, Keyed.get? auxiliary.repr siblings = some other ∧
          other ≠ metric) ∧
        ∀ number, own = some number →
          Keyed.get? number.repr siblings ≠ some metric := by
  unfold placeAuxiliary
  cases taken : Keyed.get? auxiliary.repr siblings with
  | none => simp
  | some existing =>
      by_cases same : existing = metric
      · simp [same]
      · cases own with
        | none => simp [same, @eq_comm _ failure]
        | some number =>
            by_cases there : Keyed.get? number.repr siblings = some metric
            · simp [same, there]
            · simp [same, there, @eq_comm _ failure]

/--
A placement keeps all siblings.  If it succeeds, the metric stands under the
identifier that is returned, and at most it was added at the end, under the
auxiliary identifier.  It fails exactly where that identifier computes something
else and the metric is not under its own one, and then nothing has changed.
-/
theorem placing_outcome (siblings : Aggregations) (auxiliary : Nat)
    (own : Option Nat) (metric : Aggregation) :
    (∀ id after, (placing auxiliary own metric).run siblings = .ok id after →
      Keyed.get? id after = some metric ∧ Keeps siblings after ∧
        (after = siblings ∨
          id = auxiliary.repr ∧ Keyed.get? id siblings = none ∧
            after = siblings ++ [(id, metric)])) ∧
    (∀ failure after,
      (placing auxiliary own metric).run siblings = .error failure after ↔
        after = siblings ∧ failure = .aggregationIdCollision auxiliary.repr ∧
          (∃ other, Keyed.get? auxiliary.repr siblings = some other ∧
            other ≠ metric) ∧
          ∀ number, own = some number →
            Keyed.get? number.repr siblings ≠ some metric) ∧
    placeAuxiliary siblings auxiliary own metric =
      match (placing auxiliary own metric).run siblings with
      | .ok id after => .ok (id, after)
      | .error failure _ => .error failure := by
  refine ⟨?_, ?_, ?_⟩
  · intro id after placed
    rcases placeAuxiliary_cases (run_placing_eq_ok_iff.mp placed) with
      ⟨rfl, there⟩ | ⟨named, free, rfl⟩
    · exact ⟨there, keeps_self _, .inl rfl⟩
    · have found : Keyed.get? id (siblings ++ [(id, metric)]) =
          some metric := by
        simp [Keyed.get?_append, free, Keyed.get?]
      exact ⟨found, keeps_append free metric, .inr ⟨named, free, rfl⟩⟩
  · intro failure after
    rw [run_placing_eq_error_iff, placeAuxiliary_eq_error_iff]
  · rw [run_placing]
    cases placeAuxiliary siblings auxiliary own metric <;> rfl

/--
The auxiliary identifier is taken.  The metric is found under its own one; if it
had none, it would have no place.
-/
theorem placing_outcome_taken :
    let average := Aggregation.metric .avg (some "holdCount")
    let total := Aggregation.metric .sum (some "duration")
    let siblings : Aggregations := [("2", average), ("3", total)]
    ((placing 2 (some 3) total).run siblings = .ok "3" siblings ∧
      Keyed.get? "3" siblings = some total) ∧
    (placing 2 none total).run siblings =
      .error (.aggregationIdCollision "2") siblings := by
  intro average total siblings
  have placed : (placing 2 (some 3) total).run siblings = .ok "3" siblings :=
    rfl
  have different : average ≠ total := by decide
  exact ⟨⟨placed, ((placing_outcome siblings 2 (some 3) total).1 _ _ placed).1⟩,
    ((placing_outcome siblings 2 none total).2.1 _ _).mpr
      ⟨rfl, rfl, ⟨average, rfl, different⟩, nofun⟩⟩

end ChartQuery
