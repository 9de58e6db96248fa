import ChartQuery.Proofs.Chart.Options
import ChartQuery.Proofs.Compilation.Nesting
import ChartQuery.Proofs.Keyed
import ChartQuery.Proofs.Sample

/-!
# What compilation reads of a chart

Of an entry compilation reads the function, the field and eight options.  Two
entries agree on some options when they have one function, one field and, for
each of these options, the same value or none, where `null` counts as none.
Every stage of compilation takes entries that agree to results that agree, or
to the same failure.

So how a chart is spelled does not matter.  The main statement is that charts
whose entries say the same compile to the same or fail alike, whatever the order
of their options, the options that are `null`, and the data view and the module
type that they name.
-/

namespace ChartQuery

/-- The options that the operator of a grouping is made from. -/
def operatorOptions : List String :=
  ["terms_size", "size", "min_doc_count", "missing", "fixed_interval",
   "timeZone", "interval"]

/-- The options that compilation reads. -/
def compiledOptions : List String := "order" :: operatorOptions

/-- Entries with one function, one field and the same values of some options. -/
structure AxisEntry.AgreeOn (keys : List String) (left right : AxisEntry) :
    Prop where
  function : left.function = right.function
  field : left.field = right.field
  options : ∀ key ∈ keys, left.option? key = right.option? key

/-- Groupings of one kind whose entries agree on some options. -/
structure Grouping.AgreeOn (keys : List String) (left right : Grouping) :
    Prop where
  kind : left.kind = right.kind
  entry : left.entry.AgreeOn keys right.entry

/-- Measures of one kind and one field: the same metric, or both a count. -/
structure Measure.Alike (left right : Measure) : Prop where
  kind : left.kind = right.kind
  field : left.entry.field = right.entry.field

/-! ## Options -/

section Options

variable {keys : List String} {left right : AxisEntry}

theorem AxisEntry.AgreeOn.mono {more : List String}
    (agree : left.AgreeOn more right) (fewer : keys ⊆ more) :
    left.AgreeOn keys right where
  function := agree.function
  field := agree.field
  options key member := agree.options key (fewer member)

theorem AxisEntry.AgreeOn.count? (agree : left.AgreeOn keys right)
    (key : String) (member : key ∈ keys) : left.count? key = right.count? key := by
  rw [AxisEntry.count?, agree.options key member, AxisEntry.count?]

theorem AxisEntry.AgreeOn.decimal? (agree : left.AgreeOn keys right)
    (key : String) (member : key ∈ keys) : left.decimal? key = right.decimal? key := by
  rw [AxisEntry.decimal?, agree.options key member, AxisEntry.decimal?]

theorem AxisEntry.AgreeOn.text? (agree : left.AgreeOn keys right)
    (key : String) (member : key ∈ keys) : left.text? key = right.text? key := by
  rw [AxisEntry.text?, agree.options key member, AxisEntry.text?]

theorem AxisEntry.AgreeOn.order? (agree : left.AgreeOn keys right)
    (member : "order" ∈ keys) : left.order? = right.order? := by
  rw [AxisEntry.order?, agree.options "order" member, AxisEntry.order?]

theorem AxisEntry.AgreeOn.termsSize (agree : left.AgreeOn operatorOptions right)
    (settings : CompilerSettings) :
    left.termsSize settings = right.termsSize settings := by
  unfold AxisEntry.termsSize
  rw [agree.count? "terms_size" (by decide), agree.count? "size" (by decide)]

end Options

/-! ## Entries -/

section Entries

variable {catalog : Catalog} {keys : List String} {left right : AxisEntry}

theorem Catalog.handler_congr (same : left.function = right.function) :
    catalog.handler left = catalog.handler right := by
  rw [Catalog.handler, same, Catalog.handler]

theorem Catalog.grouping_related (agree : left.AgreeOn keys right) :
    Outcome.Related (Grouping.AgreeOn keys) (catalog.grouping left)
      (catalog.grouping right) := by
  unfold Catalog.grouping
  rw [catalog.handler_congr agree.function, agree.function]
  refine (Outcome.related_self (catalog.handler right)).bind ?_
  rintro handler _ rfl
  cases handler with
  | bucket kind => exact .ok ⟨rfl, agree⟩
  | metric kind => exact .error _
  | docCount => exact .error _

theorem Catalog.measure_related (agree : left.AgreeOn keys right) :
    Outcome.Related Measure.Alike (catalog.measure left)
      (catalog.measure right) := by
  unfold Catalog.measure
  rw [catalog.handler_congr agree.function, agree.function]
  refine (Outcome.related_self (catalog.handler right)).bind ?_
  rintro handler _ rfl
  cases handler with
  | bucket kind => exact .error _
  | metric kind => exact .ok ⟨rfl, agree.field⟩
  | docCount => exact .ok ⟨rfl, agree.field⟩

theorem resolveAll_related {α : Type} {relation : α → α → Prop}
    {resolve : AxisEntry → Except CompileError α}
    {lefts rights : List AxisEntry}
    (each : List.Forall₂
      (fun left right =>
        Outcome.Related relation (resolve left) (resolve right))
      lefts rights) :
    Outcome.Related (List.Forall₂ relation) (resolveAll resolve lefts)
      (resolveAll resolve rights) := by
  induction each with
  | nil => exact .ok .nil
  | cons here later ih =>
      exact here.bind fun _ _ first => ih.bind fun _ _ more =>
        .ok (.cons first more)

end Entries

/-! ## The innermost level -/

section Measures

variable {lefts rights : List Measure}

theorem metrics_congr (alike : List.Forall₂ Measure.Alike lefts rights)
    (id : Nat) : metrics id lefts = metrics id rights := by
  induction alike generalizing id with
  | nil => rfl
  | @cons left right _ _ here _ ih =>
      rcases left with ⟨entry, kind?⟩
      rcases right with ⟨other, _⟩
      rcases here with ⟨rfl, field⟩
      cases kind? with
      | none => exact ih (id + 1)
      | some kind =>
          have source : entry.field = other.field := field
          rw [metrics, metrics, source, ih]

theorem valueSlots_congr (alike : List.Forall₂ Measure.Alike lefts rights)
    (id position : Nat) :
    valueSlots id position lefts = valueSlots id position rights := by
  induction alike generalizing id position with
  | nil => rfl
  | cons here _ ih =>
      rw [valueSlots, valueSlots, Measure.slotId, here.kind, ih]
      rfl

/-- A position is reached in both value axes or missed in both. -/
theorem measureAt_related (alike : List.Forall₂ Measure.Alike lefts rights)
    (index : Int) :
    Outcome.Related (fun left right => left.1 = right.1 ∧ left.2.Alike right.2)
      (measureAt lefts index) (measureAt rights index) := by
  unfold measureAt
  rw [alike.length_eq]
  split
  · cases found : lefts[index.toNat]? with
    | none =>
        have beyond : rights[index.toNat]? = none := by
          rw [List.getElem?_eq_none_iff, ← alike.length_eq]
          exact List.getElem?_eq_none_iff.mp found
        rw [beyond]
        exact .error _
    | some measure =>
        rcases Outcome.exists_getElem?_of_left alike found with
          ⟨other, there, same⟩
        rw [there]
        exact .ok ⟨rfl, same⟩
  · exact .error _

end Measures

/-! ## Groupings -/

section Groupings

variable {settings : CompilerSettings} {lefts rights : List Measure}

/-- The operator of a grouping does not depend on its `order` option. -/
theorem Grouping.operator_congr {left right : Grouping}
    (agree : left.AgreeOn operatorOptions right)
    (settings : CompilerSettings) (order : Keyed String SortDirection) :
    left.operator settings order = right.operator settings order := by
  dsimp only [Grouping.operator]
  rw [agree.kind, agree.entry.field, agree.entry.termsSize settings,
    agree.entry.count? "min_doc_count" (by decide),
    agree.entry.options "missing" (by decide),
    agree.entry.text? "fixed_interval" (by decide),
    agree.entry.text? "timeZone" (by decide),
    agree.entry.decimal? "interval" (by decide)]

/-- A sort clause depends on the `order` option and on what it can refer to. -/
theorem sortClause_congr {left right : AxisEntry}
    (order : left.order? = right.order?)
    (alike : List.Forall₂ Measure.Alike lefts rights)
    (depth : Nat) (firstMetric : Option Nat) (below : Aggregations) :
    sortClause lefts depth firstMetric left below =
      sortClause rights depth firstMetric right below := by
  unfold sortClause
  rw [order]
  split
  · rfl
  · rfl
  · rfl
  · -- Only a sort by a value looks at the measures.
    rename_i index direction _
    apply Outcome.Related.eq
    refine (measureAt_related alike index).bind ?_
    rintro ⟨position, entry, kind?⟩ ⟨_, other, _⟩ ⟨rfl, rfl, field⟩
    have source : entry.field = other.field := field
    cases kind? with
    | none => exact .ok rfl
    | some kind =>
        dsimp only
        rw [source]
        exact Outcome.related_self _

theorem Grouping.sorted_congr {left right : Grouping}
    (agree : left.AgreeOn compiledOptions right)
    (alike : List.Forall₂ Measure.Alike lefts rights)
    (depth : Nat) (firstMetric : Option Nat) (below : Aggregations) :
    left.sorted lefts depth firstMetric below =
      right.sorted rights depth firstMetric below := by
  have order : left.entry.order? = right.entry.order? :=
    agree.entry.order? (by decide)
  unfold Grouping.sorted
  rw [agree.kind, sortClause_congr order alike]

theorem nest_congr {outer inner : List Grouping}
    (agree : List.Forall₂ (Grouping.AgreeOn compiledOptions) outer inner)
    (alike : List.Forall₂ Measure.Alike lefts rights)
    (firstMetric depth : Nat) :
    nest settings lefts firstMetric depth outer =
      nest settings rights firstMetric depth inner := by
  induction agree generalizing depth with
  | nil => rw [nest, nest, metrics_congr alike, valueSlots_congr alike]
  | @cons left right lefts rights here later ih =>
      have inmost : lefts.isEmpty = rights.isEmpty := by
        cases later <;> rfl
      have operator := Grouping.operator_congr
        ⟨here.kind, here.entry.mono (List.subset_cons_self _ _)⟩ settings
      simp only [nest, ih, Grouping.sorted_congr here alike, inmost, operator]

end Groupings

/-! ## Charts -/

theorem Catalog.compile_congr (catalog : Catalog) (settings : CompilerSettings)
    (options : CompileOptions) {left right : Chart}
    (agree : ∀ axis, List.Forall₂ (AxisEntry.AgreeOn compiledOptions)
      (left.entries axis) (right.entries axis)) :
    catalog.compile settings options left =
      catalog.compile settings options right := by
  apply Outcome.Related.eq
  unfold Catalog.compile
  refine (resolveAll_related ((agree .main).imp
    fun _ _ => catalog.grouping_related)).bind fun outer inner mains => ?_
  refine (resolveAll_related ((agree .value).imp
    fun _ _ => catalog.measure_related)).bind fun lefts rights values => ?_
  rw [mains.length_eq, nest_congr mains values]
  exact Outcome.related_self _

/-! ## Spellings -/

/-- The entry has an option with this value, which is not `null`. -/
def AxisEntry.Gives (entry : AxisEntry) (key : String) (value : Json) : Prop :=
  (key, value) ∈ entry.options ∧ value ≠ .null

/-- Entries that apply one function to one field and give the same options. -/
structure AxisEntry.SaysSame (left right : AxisEntry) : Prop where
  function : left.function = right.function
  field : left.field = right.field
  options : ∀ key value, left.Gives key value ↔ right.Gives key value

/-- The options that are not `null`, as they are written. -/
def AxisEntry.written (entry : AxisEntry) : Keyed String Json :=
  entry.options.filter (fun option => option.2 ≠ .null)

section Spellings

variable {entry left right : AxisEntry}

theorem AxisEntry.gives_iff {key : String} {value : Json} :
    entry.Gives key value ↔ entry.option? key = some value := by
  rw [AxisEntry.Gives, AxisEntry.option?_eq_some_iff,
    Keyed.get?_eq_some_iff entry.distinct]

theorem AxisEntry.SaysSame.agreeOn (same : left.SaysSame right)
    (keys : List String) : left.AgreeOn keys right where
  function := same.function
  field := same.field
  options key _ := by
    apply Option.ext
    intro value
    rw [← AxisEntry.gives_iff, ← AxisEntry.gives_iff]
    exact same.options key value

/-- Saying the same is a matter of what is written, but for the order. -/
theorem AxisEntry.saysSame_iff :
    left.SaysSame right ↔ left.function = right.function ∧
      left.field = right.field ∧ left.written.Perm right.written := by
  have nodup : ∀ entry : AxisEntry, entry.written.Nodup := fun entry =>
    List.Nodup.filter _ entry.distinct.of_map
  have gives : ∀ (entry : AxisEntry) (key : String) (value : Json),
      (key, value) ∈ entry.written ↔ entry.Gives key value := by
    intro entry key value
    simp [AxisEntry.written, AxisEntry.Gives]
  rw [List.perm_ext_iff_of_nodup (nodup left) (nodup right)]
  simp only [Prod.forall, gives]
  exact ⟨fun ⟨function, field, options⟩ => ⟨function, field, options⟩,
    fun ⟨function, field, options⟩ => ⟨function, field, options⟩⟩

instance : DecidableRel AxisEntry.SaysSame := fun _ _ =>
  decidable_of_iff' _ AxisEntry.saysSame_iff

/--
Charts whose entries say the same, one by one, compile to the same compiled
chart or fail with the same error.
-/
theorem compile_eq_of_saysSame (catalog : Catalog)
    (settings : CompilerSettings) (options : CompileOptions)
    {left right : Chart}
    (same : ∀ axis, List.Forall₂ AxisEntry.SaysSame (left.entries axis)
      (right.entries axis)) :
    catalog.compile settings options left =
      catalog.compile settings options right :=
  catalog.compile_congr settings options fun axis =>
    (same axis).imp fun _ _ entry => entry.agreeOn compiledOptions

/-- A chart with an order, and the same chart in other words. -/
theorem compile_eq_of_saysSame_respelled :
    Sample.rareStates ≠ Sample.respelled ∧
      Sample.catalog.compile .standard .none Sample.rareStates =
        Sample.catalog.compile .standard .none Sample.respelled ∧
      ∃ compiled,
        Sample.catalog.compile .standard .none Sample.respelled =
          .ok compiled := by
  have same : ∀ axis, List.Forall₂ AxisEntry.SaysSame
      (Sample.rareStates.entries axis) (Sample.respelled.entries axis) := by
    intro axis
    cases axis <;> decide +kernel
  have succeeds :
      (Sample.catalog.compile .standard .none
        Sample.respelled).toBool = true := by
    decide +kernel
  exact ⟨by decide +kernel, compile_eq_of_saysSame _ _ _ same,
    Outcome.exists_ok_of_toBool succeeds⟩

end Spellings

end ChartQuery
