import ChartQuery.Compilation.Basic
import ChartQuery.Proofs.Keyed
import ChartQuery.Proofs.Outcome

/-!
# Metrics and sort clauses

The metrics of the value axis have different identifiers, each a number, so
none of them is `count`.  `Sorting` lists every way in which a grouping comes to
its sort clause, with what happens to the aggregations below it: they stay as
they are, or gain one metric under an identifier that was free.

A sort clause can also fail.  `Grouping.sortFault?` names the failures that lie
in the entry itself, and `Hosts` says that a metric finds a place below; the
innermost metrics and a single deeper grouping both host every metric, so there
the faults of the entry are the only failures.
-/

namespace ChartQuery

/-! ## Identifiers -/

/-- A text with anything but digits in it is not a number. -/
theorem ne_repr_of_mem {text : String} {letter : Char}
    (member : letter ∈ text.toList) (other : letter.isDigit = false)
    (number : Nat) : text ≠ number.repr := by
  intro equal
  rw [equal, Nat.toList_repr] at member
  have digit : letter.isDigit :=
    Nat.isDigit_of_mem_toDigits (by decide) (by decide) member
  rw [other] at digit
  cases digit

theorem countId_ne_repr (number : Nat) : countId ≠ number.repr := by
  have letter : 'c' ∈ countId.toList := by decide
  exact ne_repr_of_mem letter (by decide) number

/-! ## The metrics of the value axis -/

/-- The metrics are those of the measures that are no counts. -/
theorem mem_metrics {first : Nat} {measures : List Measure}
    {id : String} {node : Aggregation} :
    (id, node) ∈ metrics first measures ↔
      ∃ position entry kind,
        measures[position]? = some ⟨entry, some kind⟩ ∧
          id = (first + position).repr ∧ node = .metric kind entry.field := by
  induction measures generalizing first with
  | nil => simp [metrics]
  | cons measure rest ih =>
      rcases measure with ⟨entry, kind?⟩
      have shifted : ∀ position, first + 1 + position = first + (position + 1) :=
        fun position => by omega
      constructor
      · intro member
        cases kind? with
        | none =>
            rcases ih.mp (by simpa [metrics] using member) with
              ⟨position, there, kind, found, named, same⟩
            exact ⟨position + 1, there, kind, by simpa using found,
              by rw [named, shifted], same⟩
        | some kind =>
            rw [metrics] at member
            rcases List.mem_cons.mp member with head | tail
            · rcases Prod.mk.inj head with ⟨named, same⟩
              exact ⟨0, entry, kind, rfl, named, same⟩
            · rcases ih.mp tail with
                ⟨position, there, other, found, named, same⟩
              exact ⟨position + 1, there, other, by simpa using found,
                by rw [named, shifted], same⟩
      · rintro ⟨position, there, kind, found, named, same⟩
        cases position with
        | zero =>
            have equal : entry = there ∧ kind? = some kind := by
              simpa using found
            rcases equal with ⟨rfl, rfl⟩
            simp [metrics, named, same]
        | succ position =>
            have later : (id, node) ∈ metrics (first + 1) rest :=
              ih.mpr ⟨position, there, kind, by simpa using found,
                by rw [named, shifted], same⟩
            cases kind? with
            | none => simpa [metrics] using later
            | some other => exact List.mem_cons_of_mem _ later

theorem distinct_metrics (first : Nat) (measures : List Measure) :
    Keyed.Distinct (metrics first measures) := by
  induction measures generalizing first with
  | nil => simp [metrics, Keyed.Distinct, Keyed.keys]
  | cons measure rest ih =>
      rcases measure with ⟨entry, kind?⟩
      cases kind? with
      | none => exact ih (first + 1)
      | some kind =>
          have fresh : first.repr ∉ Keyed.keys (metrics (first + 1) rest) := by
            intro member
            rcases List.mem_map.mp member with ⟨⟨id, node⟩, found, named⟩
            rcases mem_metrics.mp found with ⟨position, _, _, _, numbered, _⟩
            have equal : first.repr = (first + 1 + position).repr :=
              named.symm.trans numbered
            have impossible := Nat.repr_inj.mp equal
            omega
          exact List.nodup_cons.mpr ⟨fresh, ih (first + 1)⟩

/-- A metric is found under the number of its position. -/
theorem get?_metrics {first position : Nat} {measures : List Measure}
    {entry : AxisEntry} {kind : MetricKind}
    (found : measures[position]? = some ⟨entry, some kind⟩) :
    Keyed.get? (first + position).repr (metrics first measures) =
      some (.metric kind entry.field) :=
  Keyed.get?_of_mem (distinct_metrics first measures)
    (mem_metrics.mpr ⟨position, entry, kind, found, rfl, rfl⟩)

/-! ## Positions of the value axis -/

theorem measureAt_eq_ok_iff {measures : List Measure} {index : Int}
    {position : Nat} {measure : Measure} :
    measureAt measures index = .ok (position, measure) ↔
      index = position ∧ measures[position]? = some measure := by
  constructor
  · intro found
    unfold measureAt at found
    split at found
    · rename_i nonnegative
      split at found
      · rename_i there reached
        rcases Prod.mk.inj (Except.ok.inj found) with ⟨rfl, rfl⟩
        exact ⟨by omega, reached⟩
      · cases found
    · cases found
  · rintro ⟨rfl, reached⟩
    simp [measureAt, reached]

/-- A position is missed when it lies outside the value axis. -/
theorem measureAt_eq_error_iff {measures : List Measure} {index : Int}
    {failure : CompileError} :
    measureAt measures index = .error failure ↔
      (index < 0 ∨ (measures.length : Int) ≤ index) ∧
        failure = .orderIndexOutOfRange index measures.length := by
  unfold measureAt
  by_cases nonnegative : 0 ≤ index
  · cases reached : measures[index.toNat]? with
    | some measure =>
        have inside := (List.getElem?_eq_some_iff.mp reached).1
        simp only [nonnegative, if_true, reduceCtorEq, false_iff, not_and]
        intro outside
        omega
    | none =>
        have beyond := List.getElem?_eq_none_iff.mp reached
        have outside : index < 0 ∨ (measures.length : Int) ≤ index := by omega
        simp [nonnegative, outside, eq_comm]
  · have outside : index < 0 ∨ (measures.length : Int) ≤ index := by omega
    simp [nonnegative, outside, eq_comm]

/-! ## Places for a metric -/

/--
A metric has a place below: its auxiliary identifier is free or already
computes it, or the metric stands under its own identifier.
-/
theorem placeAuxiliary_cases
    {siblings after : Aggregations} {auxiliary : Nat} {own : Option Nat}
    {metric : Aggregation} {id : String}
    (placed : placeAuxiliary siblings auxiliary own metric = .ok (id, after)) :
    (after = siblings ∧ Keyed.get? id siblings = some metric) ∨
      (id = auxiliary.repr ∧ Keyed.get? id siblings = none ∧
        after = siblings ++ [(id, metric)]) := by
  unfold placeAuxiliary at placed
  split at placed
  · rename_i free
    rcases Prod.mk.inj (Except.ok.inj placed) with ⟨rfl, rfl⟩
    exact Or.inr ⟨rfl, free, rfl⟩
  · rename_i existing taken
    split at placed
    · rename_i same
      rcases Prod.mk.inj (Except.ok.inj placed) with ⟨rfl, rfl⟩
      exact Or.inl ⟨rfl, same ▸ taken⟩
    · split at placed
      · cases placed
      · rename_i number
        split at placed
        · rename_i there
          rcases Prod.mk.inj (Except.ok.inj placed) with ⟨rfl, rfl⟩
          exact Or.inl ⟨rfl, there⟩
        · cases placed

/-- Every metric of the value axis has a place below the grouping at `depth`. -/
def Hosts (measures : List Measure) (depth : Nat) (firstMetric : Option Nat)
    (below : Aggregations) : Prop :=
  ∀ position entry kind, measures[position]? = some ⟨entry, some kind⟩ →
    ∃ placed, placeAuxiliary below (auxiliaryId depth position)
      (firstMetric.map (fun first => first + position))
      (.metric kind entry.field) = .ok placed

/-- The metrics themselves: at worst a metric is found under its own number. -/
theorem hosts_metrics (measures : List Measure) (depth first : Nat) :
    Hosts measures depth (some first) (metrics first measures) := by
  intro position entry kind found
  unfold placeAuxiliary
  split
  · exact ⟨_, rfl⟩
  · split
    · exact ⟨_, rfl⟩
    · simp [get?_metrics found]

/-- A single grouping one level deeper: its number is no auxiliary identifier. -/
theorem hosts_grouping (measures : List Measure) (depth : Nat)
    (node : Aggregation) :
    Hosts measures depth none [((depth + 1).repr, node)] := by
  intro position entry kind found
  have different : (depth + 1).repr ≠ (auxiliaryId depth position).repr := by
    intro equal
    have same := Nat.repr_inj.mp equal
    unfold auxiliaryId at same
    split at same <;> omega
  simp [placeAuxiliary, Keyed.get?, different]

/-! ## Sort clauses -/

/--
How the grouping of `entry` comes to its sort clause, and what is below it
then.  Without an order the largest groups come first.
-/
inductive Sorting (measures : List Measure) (depth : Nat) (entry : AxisEntry)
    (below : Aggregations) :
    Keyed String SortDirection → Aggregations → Prop where
  | standard
      (absent : entry.order? = none) :
      Sorting measures depth entry below [(countKey, .desc)] below
  | byCount {direction : SortDirection}
      (order : entry.order? = some (.ok ⟨.docCount, direction⟩)) :
      Sorting measures depth entry below [(countKey, direction)] below
  | byCountEntry {position : Nat} {direction : SortDirection}
      {other : AxisEntry}
      (order : entry.order? = some (.ok ⟨.valueAxis position, direction⟩))
      (target : measures[position]? = some ⟨other, none⟩) :
      Sorting measures depth entry below [(countKey, direction)] below
  | byPresent {position : Nat} {direction : SortDirection}
      {other : AxisEntry} {kind : MetricKind} {id : String}
      (order : entry.order? = some (.ok ⟨.valueAxis position, direction⟩))
      (target : measures[position]? = some ⟨other, some kind⟩)
      (present : Keyed.get? id below = some (.metric kind other.field)) :
      Sorting measures depth entry below [(id, direction)] below
  | byAdded {position : Nat} {direction : SortDirection}
      {other : AxisEntry} {kind : MetricKind} {id : String}
      (order : entry.order? = some (.ok ⟨.valueAxis position, direction⟩))
      (target : measures[position]? = some ⟨other, some kind⟩)
      (named : id = (auxiliaryId depth position).repr)
      (free : Keyed.get? id below = none) :
      Sorting measures depth entry below [(id, direction)]
        (below ++ [(id, .metric kind other.field)])

theorem sorting_of_sortClause
    {measures : List Measure} {depth : Nat} {firstMetric : Option Nat}
    {entry : AxisEntry} {below after : Aggregations}
    {order : Keyed String SortDirection}
    (sorted : sortClause measures depth firstMetric entry below =
      .ok (order, after)) :
    Sorting measures depth entry below order after := by
  unfold sortClause at sorted
  split at sorted
  · rename_i absent
    rcases Prod.mk.inj (Except.ok.inj sorted) with ⟨rfl, rfl⟩
    exact .standard absent
  · cases sorted
  · rename_i direction asked
    rcases Prod.mk.inj (Except.ok.inj sorted) with ⟨rfl, rfl⟩
    exact .byCount asked
  · rename_i index direction asked
    rcases Outcome.bind_eq_ok_iff.mp sorted with
      ⟨⟨position, ⟨other, kind?⟩⟩, reached, rest⟩
    rcases measureAt_eq_ok_iff.mp reached with ⟨rfl, target⟩
    cases kind? with
    | none =>
        rcases Prod.mk.inj (Except.ok.inj rest) with ⟨rfl, rfl⟩
        exact .byCountEntry asked target
    | some kind =>
        rcases Outcome.bind_eq_ok_iff.mp rest with
          ⟨⟨id, placedBelow⟩, placed, last⟩
        rcases Prod.mk.inj (Except.ok.inj last) with ⟨rfl, rfl⟩
        rcases placeAuxiliary_cases placed with
          ⟨rfl, present⟩ | ⟨named, free, rfl⟩
        · exact .byPresent asked target present
        · exact .byAdded asked target named free

/-! ## Faults of a sort clause -/

/-- What is wrong with the sort order of a grouping, for this value axis. -/
def Grouping.sortFault? (measures : List Measure) (grouping : Grouping) :
    Option CompileError :=
  match grouping.kind, grouping.entry.order? with
  | .terms, some (.error error) => some (.invalidOrder error)
  | .terms, some (.ok ⟨.valueAxis index, _⟩) =>
      if index < 0 ∨ (measures.length : Int) ≤ index then
        some (.orderIndexOutOfRange index measures.length)
      else none
  | _, _ => none

/-- Where every metric has a place, a sort clause fails by its order alone. -/
theorem sortClause_eq_error_iff
    {measures : List Measure} {depth : Nat} {firstMetric : Option Nat}
    {entry : AxisEntry} {below : Aggregations} {failure : CompileError}
    (hosts : Hosts measures depth firstMetric below) :
    sortClause measures depth firstMetric entry below = .error failure ↔
      Grouping.sortFault? measures ⟨entry, .terms⟩ = some failure := by
  unfold sortClause Grouping.sortFault?
  cases asked : entry.order? with
  | none => simp
  | some parsed =>
      cases parsed with
      | error error => simp
      | ok order =>
          rcases order with ⟨target, direction⟩
          cases target with
          | docCount => simp
          | valueAxis index =>
              simp only [Outcome.bind_eq_error_iff, measureAt_eq_error_iff]
              constructor
              · rintro (⟨outside, rfl⟩ | ⟨⟨position, measure⟩, reached, later⟩)
                · simp [outside]
                · exfalso
                  rcases measureAt_eq_ok_iff.mp reached with ⟨rfl, found⟩
                  rcases measure with ⟨other, kind?⟩
                  cases kind? with
                  | none => cases later
                  | some kind =>
                      rcases hosts position other kind found with ⟨placed, done⟩
                      simp [done, bind, Except.bind, pure, Except.pure] at later
              · intro fault
                by_cases outside : index < 0 ∨ (measures.length : Int) ≤ index
                · exact Or.inl ⟨outside, by simpa [outside, eq_comm] using fault⟩
                · simp [outside] at fault

end ChartQuery
