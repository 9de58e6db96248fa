import ChartQuery.Proofs.Decoding.Columns
import ChartQuery.Proofs.Decoding.Steps
import ChartQuery.Proofs.Sample

/-!
# Rows of conforming responses

Decoding a conforming response gives one row for each chain of buckets, depth
first.  `RowAlong` describes such a row from any level inwards: it starts from
the cells put in so far, gains the key of every bucket on the chain, and at its
end the cells of the value slots.  The walk of the decoder follows the nesting
of the compiler level by level; a metric that only sorts a grouping is answered
too, but nothing looks at it.
-/

namespace ChartQuery

/-- A cell of a value slot. -/
def CellOf (scope : Scope) (slot : String × Nat) (cell : String × Json) : Prop :=
  cell.1 = Axis.value.label slot.2 ∧ scope.cell? slot.1 = some cell.2

theorem keys_of_cellOf {scope : Scope} {values : List (String × Nat)}
    {cells : Row} (answered : List.Forall₂ (CellOf scope) values cells) :
    Keyed.keys cells =
      values.map (fun slot => Axis.value.label slot.2) := by
  induction answered with
  | nil => rfl
  | cons here _ ih =>
      simp only [Keyed.keys, List.map_cons, here.1] at ih ⊢
      rw [ih]

/-- A row that starts from some cells and follows a chain of buckets inwards. -/
inductive RowAlong (values : List (String × Nat)) :
    Nat → Scope → Row → List Json → Row → Prop where
  | innermost {depth : Nat} {scope : Scope} {start cells : Row}
      (answered : List.Forall₂ (CellOf scope) values cells) :
      RowAlong values depth scope start [] (start ++ cells)
  | bucket {depth : Nat} {scope : Scope} {start row : Row}
      {bucket key : Json} {chain : List Json}
      (keyed : bucket.member? "key" = some key)
      (inside : RowAlong values (depth + 1) (.ofBucket bucket)
        (start ++ [(Axis.main.label depth, key)]) chain row) :
      RowAlong values depth scope start (bucket :: chain) row

/-! ## What a row holds -/

namespace RowAlong

variable {values : List (String × Nat)} {depth : Nat} {scope : Scope}
  {start row : Row} {chain : List Json}

theorem keys_eq (along : RowAlong values depth scope start chain row) :
    Keyed.keys row =
      Keyed.keys start ++
        ((List.range' depth chain.length).map Axis.main.label ++
          values.map (fun slot => Axis.value.label slot.2)) := by
  induction along with
  | @innermost depth scope start cells answered =>
      rw [← keys_of_cellOf answered]
      simp [Keyed.keys]
  | bucket keyed inside ih =>
      rw [ih]
      simp [Keyed.keys, List.range'_succ]

theorem kept (along : RowAlong values depth scope start chain row)
    {cell : String × Json} (member : cell ∈ start) : cell ∈ row := by
  induction along with
  | innermost answered => exact List.mem_append_left _ member
  | bucket keyed inside ih => exact ih (List.mem_append_left _ member)

theorem key (along : RowAlong values depth scope start chain row)
    {offset : Nat} {bucket : Json} (found : chain[offset]? = some bucket) :
    ∃ key, bucket.member? "key" = some key ∧
      (Axis.main.label (depth + offset), key) ∈ row := by
  induction along generalizing offset with
  | innermost answered => simp at found
  | @bucket depth scope start row first key chain keyed inside ih =>
      cases offset with
      | zero =>
          have same : first = bucket := by simpa using found
          subst same
          refine ⟨key, keyed, inside.kept ?_⟩
          exact List.mem_append_right _ List.mem_cons_self
      | succ offset =>
          rcases ih (by simpa using found) with ⟨key, has, there⟩
          rw [Nat.add_right_comm, Nat.add_assoc] at there
          exact ⟨key, has, there⟩

theorem value (along : RowAlong values depth scope start chain row)
    {id : String} {position : Nat} (held : (id, position) ∈ values) :
    ∃ cell, (scope.reach chain).cell? id = some cell ∧
      (Axis.value.label position, cell) ∈ row := by
  induction along with
  | @innermost depth scope start cells answered =>
      have cell : ∃ cell ∈ cells, CellOf scope (id, position) cell := by
        induction answered with
        | nil => cases held
        | cons here _ ih =>
            rcases List.mem_cons.mp held with rfl | later
            · exact ⟨_, List.mem_cons_self, here⟩
            · rcases ih later with ⟨cell, member, there⟩
              exact ⟨cell, List.mem_cons_of_mem _ member, there⟩
      rcases cell with ⟨⟨column, value⟩, member, named, answer⟩
      subst named
      exact ⟨value, answer, List.mem_append_right _ member⟩
  | bucket keyed inside ih => exact ih

end RowAlong

/-! ## The walk of the decoder -/

/-- Where every value slot has a cell, the cells are those of the slots. -/
theorem cellOf_cells {scope : Scope} {values : List (String × Nat)}
    (answered : ∀ slot ∈ values, ∃ cell, scope.cell? slot.1 = some cell) :
    List.Forall₂ (CellOf scope) values (scope.cells values) := by
  induction values with
  | nil => exact .nil
  | cons slot rest ih =>
      rcases List.forall_mem_cons.mp answered with ⟨⟨cell, here⟩, later⟩
      have cells : scope.cells (slot :: rest) =
          (Axis.value.label slot.2, cell) :: scope.cells rest := by
        simp [Scope.cells, here]
      rw [cells]
      exact .cons ⟨rfl, here⟩ (ih later)

theorem valueCells_eq_ok {scope : Scope} {count : Json}
    (counted : scope.size? = some count) (path : ResponsePath)
    {values : List (String × Nat)} {row : Row}
    (answered : ∀ slot ∈ values, ∃ cell, scope.cell? slot.1 = some cell)
    (fresh : (Keyed.keys row ++
      values.map (fun slot => Axis.value.label slot.2)).Nodup) :
    ∃ cells, List.Forall₂ (CellOf scope) values cells ∧
      valueCells .none scope.answers (.ok count) path row values =
        .ok (row ++ cells) := by
  have those := cellOf_cells answered
  have distinct : Keyed.Distinct (row ++ scope.cells values) := by
    unfold Keyed.Distinct
    rw [← keys_of_cellOf those] at fresh
    simpa [Keyed.keys] using fresh
  refine ⟨scope.cells values, those, ?_⟩
  rw [valueCells_eq_ok_iff (Scope.counts_ok counted),
    Keyed.foldl_insert_of_distinct distinct]
  exact ⟨answered, rfl⟩

/-- Every bucket contributes the rows of the chains that start with it. -/
theorem bucketRows_eq_ok
    {id : String} {path : ResponsePath}
    {inside : ResponsePath → Bucket → Except DecodeError (List Row)}
    {relation : List Json → Row → Prop} {inner : Json → List (List Json)}
    {buckets : List Json}
    (each : ∀ bucket ∈ buckets, ∃ parsed, Bucket.ofJson bucket = .ok parsed ∧
      ∀ here, ∃ rows, inside here parsed = .ok rows ∧
        List.Forall₂ (fun chain row => relation (bucket :: chain) row)
          (inner bucket) rows)
    (number : Nat) :
    ∃ rows, bucketRows id path inside number buckets = .ok rows ∧
      List.Forall₂ relation
        (buckets.flatMap (fun bucket => (inner bucket).map (bucket :: ·)))
        rows := by
  induction buckets generalizing number with
  | nil => exact ⟨[], rfl, .nil⟩
  | cons bucket rest ih =>
      rcases each bucket List.mem_cons_self with ⟨parsed, read, walk⟩
      rcases walk (path ++ [⟨id, number⟩]) with ⟨rows, here, related⟩
      rcases ih (fun other member =>
          each other (List.mem_cons_of_mem _ member)) (number + 1) with
        ⟨more, later, others⟩
      refine ⟨rows ++ more, ?_, ?_⟩
      · exact bucketRows_cons_eq_ok_iff.mpr
          ⟨parsed, rows, more, read, here, later, rfl⟩
      · rw [List.flatMap_cons]
        exact List.rel_append (List.forall₂_map_left_iff.mpr related) others

/--
From `depth` on, with a number of groupings, whatever answers the aggregations
is decoded by the slots into one row for each chain of buckets.  The row so far
has a column for each grouping around.
-/
def Decodes (values : List (String × Nat)) (depth number : Nat)
    (aggregations : Aggregations) (slots : Slots) : Prop :=
  ∀ (scope : Scope) (count : Json) (path : ResponsePath) (row : Row),
    scope.size? = some count →
    Aggregation.areAnsweredBy aggregations scope.answers = true →
    Keyed.keys row = (List.range depth).map Axis.main.label →
    ∃ rows,
      levelRows .none (Slots.levels slots) scope.answers (.ok count) path row =
        .ok rows ∧
      List.Forall₂ (RowAlong values depth scope row)
        (scope.chains depth number) rows

section Nested

variable {settings : CompilerSettings} {measures : List Measure}
  {firstMetric depth number : Nat} {groupings : List Grouping}

/-- Inside the innermost grouping every value slot has a cell. -/
theorem exists_cell_innermost {scope : Scope} {count : Json}
    (counted : scope.size? = some count)
    (answered : Aggregation.areAnsweredBy (metrics firstMetric measures)
      scope.answers = true)
    {id : String} {position : Nat}
    (held : (id, position) ∈ (innermostSlots firstMetric measures).places) :
    ∃ value, scope.cell? id = some value := by
  rcases List.mem_map.mp held with ⟨⟨name, slot⟩, member, same⟩
  rcases mem_innermostSlots member with ⟨place, measure, there, named, _⟩
  have id? : id = measure.slotId (firstMetric + place) := by
    rw [← named]
    exact (Prod.mk.inj same).1.symm
  rcases measure with ⟨entry, kind?⟩
  cases kind? with
  | none =>
      rw [id?, Measure.slotId_count rfl]
      exact ⟨count, by simpa [Scope.cell?] using counted⟩
  | some kind =>
      rw [id?, Measure.slotId_metric rfl]
      apply Scope.cell?_of_answered answered (Ne.symm (countId_ne_repr _))
      exact mem_metrics.mpr ⟨place, entry, kind, there, rfl, rfl⟩

theorem decodes_innermost (firstMetric depth : Nat) (measures : List Measure) :
    Decodes (innermostSlots firstMetric measures).places depth 0
      (metrics firstMetric measures) (innermostSlots firstMetric measures) := by
  intro scope count path row counted answered columns
  have fresh : (Keyed.keys row ++
      (innermostSlots firstMetric measures).places.map
        (fun slot => Axis.value.label slot.2)).Nodup := by
    have apart := nodup_columns depth
      (nodup_positions_places firstMetric measures)
    rwa [List.map_map, ← columns] at apart
  rcases valueCells_eq_ok counted path
      (fun slot held => exists_cell_innermost counted answered held) fresh with
    ⟨cells, those, decoded⟩
  refine ⟨[row ++ cells], ?_, .cons (.innermost those) .nil⟩
  rw [(Slots.levels_of_values values_innermostSlots).1]
  simp [levelRows, decoded, bind, Except.bind, pure, Except.pure]

/-- A grouping puts the key of each bucket into the row and walks on inside. -/
theorem Decodes.grouping {values : List (String × Nat)}
    {below after : Aggregations} {inner : Slots} {operator : Operator}
    (deeper : Decodes values (depth + 1) number below inner)
    (kept : ∀ entry ∈ below, entry ∈ after) :
    Decodes values depth (number + 1)
      [(depth.repr, .bucket operator after)]
      [(depth.repr, .main depth inner)] := by
  intro scope count path row counted answered columns
  have levels : Slots.levels [(depth.repr, .main depth inner)] =
      .grouped [] depth.repr depth (Slots.levels inner) := rfl
  rcases Scope.buckets_of_answered answered List.mem_cons_self with
    ⟨listed, inside⟩
  have buckets : scope.answers.buckets depth.repr path =
      .ok (scope.buckets depth.repr) :=
    Scope.buckets_eq_ok_iff.mpr listed
  have absent : Axis.main.label depth ∉ Keyed.keys row := by
    rw [columns]
    intro member
    rcases List.mem_map.mp member with ⟨other, smaller, same⟩
    have equal := Axis.label_inj.mp same
    have less := List.mem_range.mp smaller
    omega
  have each : ∀ bucket ∈ scope.buckets depth.repr,
      ∃ parsed, Bucket.ofJson bucket = .ok parsed ∧
        ∀ here, ∃ rows,
          levelRows .none (Slots.levels inner) parsed.answers
              (.ok parsed.docCount) here
              (Keyed.insert (Axis.main.label depth) parsed.key row) =
            .ok rows ∧
          List.Forall₂
            (fun chain found =>
              RowAlong values depth scope row (bucket :: chain) found)
            ((Scope.ofBucket bucket).chains (depth + 1) number) rows := by
    intro bucket member
    rcases inside bucket member with ⟨wellFormed, answers⟩
    rcases Bucket.ofJson_of_isBucket wellFormed with
      ⟨key, docCount, keyed, sized, read⟩
    refine ⟨_, read, fun here => ?_⟩
    -- The answers may include one to a sort metric, which has no slot.
    have asked : Aggregation.areAnsweredBy below
        (Scope.ofBucket bucket).answers = true := by
      rw [Aggregation.areAnsweredBy_iff] at answers ⊢
      exact fun id node found => answers id node (kept _ found)
    have next : Keyed.keys (row ++ [(Axis.main.label depth, key)]) =
        (List.range (depth + 1)).map Axis.main.label := by
      rw [List.range_succ, List.map_append, ← columns]
      simp [Keyed.keys]
    rcases deeper _ docCount here _ sized asked next with
      ⟨rows, decoded, along⟩
    refine ⟨rows, ?_, along.imp (fun _ _ row => .bucket keyed row)⟩
    rw [Keyed.insert_of_not_mem absent]
    exact decoded
  rcases bucketRows_eq_ok each 0 with ⟨rows, decoded, related⟩
  refine ⟨rows, ?_, related⟩
  simp only [levels, levelRows, valueCells, buckets, bind, Except.bind]
  exact decoded

/-- The slots of nested groupings decode what answers their aggregations. -/
theorem decodes_nest {aggregations : Aggregations} {slots : Slots}
    (nested : nest settings measures firstMetric depth groupings =
      .ok (aggregations, slots)) :
    Decodes (innermostSlots firstMetric measures).places depth
      groupings.length aggregations slots := by
  induction groupings generalizing depth aggregations slots with
  | nil =>
      cases nested
      exact decodes_innermost firstMetric depth measures
  | cons grouping rest ih =>
      rcases nest_cons_eq_ok_iff.mp nested with
        ⟨below, inner, order, after, deeper, sorted, rfl, rfl⟩
      exact (ih deeper).grouping
        (fun entry member => Grouping.mem_of_sorted sorted member)

/-- From the root on, the rows follow the chains of the whole response. -/
theorem decode_nest {request : Request} {slots : Slots} {response : Json}
    (nested : nest settings measures firstMetric 0 groupings =
      .ok (request.aggregations, slots))
    (conforms : Conforms request response) :
    ∃ rows, decode .none slots response = .ok rows ∧
      List.Forall₂
        (RowAlong (innermostSlots firstMetric measures).places 0
          (.whole response) [])
        ((Scope.whole response).chains 0 groupings.length) rows := by
  rcases (Option.any_eq_true _ _).mp conforms.total with
    ⟨total, counted, number⟩
  have columns : Keyed.keys ([] : Row) =
      (List.range 0).map Axis.main.label := rfl
  rw [decode, rootAnswers_eq, totalHits_eq_ok_iff.mpr ⟨counted, number⟩]
  exact decodes_nest nested _ total [] [] counted conforms.answers columns

end Nested

/-! ## Compiled charts -/

/--
The row of a chain of buckets: the key of each bucket, and what each value slot
stands for where the chain ends.
-/
structure RowOf (slots : Slots) (response : Json) (chain : List Json)
    (row : Row) : Prop where
  columns : Keyed.keys row =
    (List.range chain.length).map Axis.main.label ++
      (Slots.held slots).map (fun slot => Axis.value.label slot.2)
  key : ∀ depth bucket, chain[depth]? = some bucket →
    ∃ key, bucket.member? "key" = some key ∧
      Keyed.get? (Axis.main.label depth) row = some key
  value : ∀ id position, (id, position) ∈ Slots.held slots →
    ∃ cell, ((Scope.whole response).reach chain).cell? id = some cell ∧
      Keyed.get? (Axis.value.label position) row = some cell

theorem RowAlong.rowOf {slots : Slots} {response : Json} {chain : List Json}
    {row : Row}
    (along : RowAlong (Slots.held slots) 0 (.whole response) [] chain row)
    (positions : ((Slots.held slots).map Prod.snd).Nodup) :
    RowOf slots response chain row := by
  have columns : Keyed.keys row =
      (List.range chain.length).map Axis.main.label ++
        (Slots.held slots).map (fun slot => Axis.value.label slot.2) := by
    rw [along.keys_eq, List.range_eq_range']
    rfl
  have distinct : Keyed.Distinct row := by
    have apart := nodup_columns chain.length positions
    rw [List.map_map] at apart
    unfold Keyed.Distinct
    rw [columns]
    exact apart
  constructor
  · exact columns
  · intro depth bucket found
    rcases along.key found with ⟨key, keyed, there⟩
    rw [Nat.zero_add] at there
    exact ⟨key, keyed, Keyed.get?_of_mem distinct there⟩
  · intro id position held
    rcases along.value held with ⟨cell, answered, there⟩
    exact ⟨cell, answered, Keyed.get?_of_mem distinct there⟩

/--
Every response that conforms to a compiled chart is decoded, into one row for
each chain of buckets in the order of the response.
-/
theorem decode_compile
    {catalog : Catalog} {settings : CompilerSettings}
    {options : CompileOptions} {chart : Chart} {compiled : CompiledChart}
    {response : Json}
    (compiles : catalog.compile settings options chart = .ok compiled)
    (conforms : Conforms compiled.request response) :
    ∃ rows, decode .none compiled.slots response = .ok rows ∧
      List.Forall₂ (RowOf compiled.slots response)
        ((Scope.whole response).chains 0 (chart.entries .main).length) rows := by
  rcases Catalog.compile_eq_ok_iff.mp compiles with
    ⟨groupings, measures, aggregations, slots, mains, values, nested, rfl⟩
  rcases decode_nest nested conforms with ⟨rows, decoded, along⟩
  have count : (chart.entries .main).length = groupings.length :=
    (resolveAll_eq_ok_iff.mp mains).length_eq
  have positions : ((Slots.held slots).map Prod.snd).Nodup := by
    rw [held_nest nested]
    exact nodup_positions_places _ measures
  refine ⟨rows, decoded, ?_⟩
  rw [count]
  rw [← held_nest nested] at along
  exact along.imp (fun _ _ row => row.rowOf positions)

theorem exists_conforms_ordered :
    ∃ compiled,
      Sample.catalog.compile .standard .none Sample.ordered = .ok compiled ∧
        Conforms compiled.request Sample.orderedResponse := by
  have fits :
      (Sample.catalog.compile .standard .none Sample.ordered).toOption.any
        (fun compiled =>
          decide (Conforms compiled.request Sample.orderedResponse)) = true := by
    decide +kernel
  rcases Outcome.exists_ok_of_any fits with ⟨compiled, compiles, answered⟩
  exact ⟨compiled, compiles, of_decide_eq_true answered⟩

/-- Two chains through three groupings; a second state has no hour in it. -/
theorem decode_compile_ordered :
    ∃ compiled,
      Sample.catalog.compile .standard .none Sample.ordered = .ok compiled ∧
        Conforms compiled.request Sample.orderedResponse ∧
        ∃ rows,
          decode .none compiled.slots Sample.orderedResponse = .ok rows ∧
            List.Forall₂ (RowOf compiled.slots Sample.orderedResponse)
              ((Scope.whole Sample.orderedResponse).chains 0 3) rows := by
  rcases exists_conforms_ordered with ⟨compiled, compiles, conforms⟩
  exact ⟨compiled, compiles, conforms, decode_compile compiles conforms⟩

end ChartQuery
