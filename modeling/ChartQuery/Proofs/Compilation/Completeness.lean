import ChartQuery.Proofs.Chart.Document
import ChartQuery.Proofs.Compilation.SuppliedOptions
import ChartQuery.Proofs.Validation.AllowedValues

/-!
# Complete requests

Compilation has a stand-in for whatever an entry leaves out: a field without a
name, an interval without a text, the interval zero.  A catalog keeps them out
of its requests if every function requires the options that its handler cannot
do without; `Catalog.Demanding` says so.  Validation then accepts an entry only
with these options, and the request of an accepted chart is complete from the
outermost grouping to the last metric.  The built-in catalog is demanding, so
this holds of every chart that is accepted with it.

Validation finds the name of a field among the options too, where compilation
does not look.  An entry that is read has none there; one that is made by hand is
accepted with it and may be left without a field.  The interval of a number is
the nearest float, which need not be the number itself.
-/

namespace ChartQuery

/-! ## What a request cannot do without -/

/-- The options that a handler cannot do without. -/
def Handler.needs : Handler → List String
  | .bucket .terms => ["aggregationField"]
  | .bucket .dateHistogram => ["aggregationField", "fixed_interval"]
  | .bucket .histogram => ["aggregationField", "interval"]
  | .metric _ => ["aggregationField"]
  | .docCount => []

/-- Every function requires what its handler cannot do without. -/
def Catalog.Demanding (catalog : Catalog) : Prop :=
  ∀ named ∈ catalog.functions, ∀ handler ∈ named.2.handler,
    ∀ key ∈ handler.needs, key ∈ Keyed.keys named.2.required

instance (catalog : Catalog) : Decidable catalog.Demanding :=
  inferInstanceAs (Decidable (∀ named ∈ catalog.functions, _))

/-- The name of a field is not among the options of the entry. -/
def AxisEntry.FieldApart (entry : AxisEntry) : Prop :=
  "aggregationField" ∉ Keyed.keys entry.options

/-- The field is the one of the entry, and it has a name. -/
structure AxisEntry.NamesField (entry : AxisEntry) (field : String) :
    Prop where
  own : field = entry.field.getD ""
  filled : entry.FieldApart → field ≠ ""

/-- A grouping has a field, and an interval if it needs one, from its entry. -/
inductive Operator.CompleteFor (entry : AxisEntry) : Operator → Prop where
  | terms {body : TermsBody} (field : entry.NamesField body.field) :
      CompleteFor entry (.terms body)
  | dateHistogram {body : DateHistogramBody}
      (field : entry.NamesField body.field)
      (interval : Keyed.get? "fixed_interval" entry.options =
        some (.string body.fixedInterval))
      (filled : body.fixedInterval ≠ "")
      (formed : OptionFormat.fixedInterval.Admits Text.isDecimalDigit
        (.string body.fixedInterval)) :
      CompleteFor entry (.dateHistogram body)
  | histogram {body : HistogramBody} {number : Json.Number}
      (field : entry.NamesField body.field)
      (interval : Keyed.get? "interval" entry.options = some (.number number))
      (near : body.interval.Nearest number.toRat) :
      CompleteFor entry (.histogram body)

/--
A metric with the field of one of the values, or a complete grouping with
complete aggregations below it.  The groupings on the way inwards belong to the
entries of the list.
-/
inductive Aggregation.Complete (values : List AxisEntry) :
    List AxisEntry → Aggregation → Prop where
  | metric {entries : List AxisEntry} {kind : MetricKind} {value : AxisEntry}
      (asked : value ∈ values)
      (named : value.NamesField (value.field.getD "")) :
      Complete values entries (.metric kind value.field)
  | bucket {entry : AxisEntry} {rest : List AxisEntry} {operator : Operator}
      {below : Aggregations}
      (own : operator.CompleteFor entry)
      (inside : ∀ named ∈ below, Complete values rest named.2) :
      Complete values (entry :: rest) (.bucket operator below)

/-! ## Entries that are allowed -/

section Entries

variable {function : FunctionDescriptor} {catalog : Catalog}
  {index : IndexMapping} {axis : Axis} {entry : AxisEntry}

/-- A required option with a form is written, and in that form. -/
theorem FunctionDescriptor.Allows.exists_written
    (allows : function.Allows catalog index axis entry)
    {key : String} {format : OptionFormat}
    (checked : (key, format) ∈ OptionFormat.checked)
    (required : key ∈ Keyed.keys function.required) :
    ∃ value, Keyed.get? key entry.options = some value ∧
      value ≠ .string "" ∧ format.Admits Text.isDecimalDigit value := by
  rcases List.mem_map.mp required with ⟨⟨key, allowed⟩, declared, rfl⟩
  rcases allows.required key allowed declared with
    ⟨value, taken, _, filled, _⟩
  rw [value?_of_checked function entry checked] at taken
  exact ⟨value, taken, filled, allows.formats _ checked value taken⟩

/-- A required field is given, and if it is not among the options it is there. -/
theorem FunctionDescriptor.Allows.namesField
    (allows : function.Allows catalog index axis entry)
    (required : "aggregationField" ∈ Keyed.keys function.required) :
    entry.NamesField (entry.field.getD "") := by
  refine ⟨rfl, fun apart empty => ?_⟩
  rcases List.mem_map.mp required with ⟨⟨key, allowed⟩, declared, rfl⟩
  rcases allows.required _ allowed declared with ⟨value, taken, _, filled, _⟩
  have absent : Keyed.get? "aggregationField" entry.options = none :=
    (Keyed.get?_eq_none_iff _ _).mpr apart
  have given : entry.field.map .string = some value := by
    simpa [FunctionDescriptor.value?, AxisEntry.given?, absent] using taken
  rcases Option.map_eq_some_iff.mp given with ⟨field, named, rfl⟩
  rw [named, Option.getD_some] at empty
  exact filled (congrArg _ empty)

/-- An allowed main entry asks for a complete grouping. -/
theorem FunctionDescriptor.Allows.completeFor_operator
    (allows : function.Allows catalog index axis entry) {kind : BucketKind}
    (demanded : ∀ key ∈ (Handler.bucket kind).needs,
      key ∈ Keyed.keys function.required)
    (settings : CompilerSettings) (options : CompileOptions)
    (order : Keyed String SortDirection) :
    (Grouping.operator ⟨entry, kind⟩ (settings.override options)
      order).CompleteFor entry := by
  have carries := Grouping.carries_operator kind settings options order
    fun checked value written => OptionFormat.accepts_iff_admits.mpr
      (allows.formats _ checked value written)
  have everyKind : "aggregationField" ∈ (Handler.bucket kind).needs := by
    cases kind <;> decide
  have field := allows.namesField (demanded _ everyKind)
  cases kind with
  | terms => exact .terms field
  | dateHistogram =>
      have checked : ("fixed_interval", OptionFormat.fixedInterval) ∈
          OptionFormat.checked := by decide
      rcases allows.exists_written checked (demanded _ (by decide)) with
        ⟨value, written, filled, admitted⟩
      have same := carries.fixedInterval
      rw [AxisEntry.writtenOr, written, Option.getD_some] at same
      subst same
      exact .dateHistogram field written
        (fun empty => filled (congrArg _ empty)) admitted
  | histogram =>
      have checked : ("interval", OptionFormat.number) ∈
          OptionFormat.checked := by decide
      rcases allows.exists_written checked (demanded _ (by decide)) with
        ⟨value, written, _, admitted⟩
      cases admitted with
      | number number =>
          rcases carries.interval with ⟨other, same, _, near⟩
          rw [AxisEntry.writtenOr, written, Option.getD_some] at same
          cases same
          exact .histogram field written near

end Entries

/-! ## Nested groupings -/

section Nested

variable {settings : CompilerSettings} {measures : List Measure}
  {firstMetric depth : Nat} {grouping : Grouping} {groupings : List Grouping}
  {values entries : List AxisEntry} {aggregations : Aggregations}
  {slots : Slots}

/-- A metric that is added for sorting is one of the value axis. -/
theorem complete_of_sorted {own : Option Nat} {below after : Aggregations}
    {order : Keyed String SortDirection}
    (fields : ∀ entry kind, ⟨entry, some kind⟩ ∈ measures →
      entry ∈ values ∧ entry.NamesField (entry.field.getD ""))
    (complete : ∀ named ∈ below, named.2.Complete values entries)
    (sorted : grouping.sorted measures depth own below = .ok (order, after)) :
    ∀ named ∈ after, named.2.Complete values entries := by
  rcases Grouping.sorted_cases sorted with ⟨_, sorting⟩ | ⟨_, _, rfl⟩
  · cases sorting with
    | @byAdded _ _ other kind _ _ target _ _ =>
        rcases fields other kind (List.mem_of_getElem? target) with
          ⟨asked, field⟩
        intro named there
        rcases List.mem_append.mp there with old | new
        · exact complete named old
        · rw [List.mem_singleton.mp new]
          exact .metric asked field
    | _ => exact complete
  · exact complete

theorem complete_nest
    (operators : ∀ grouping ∈ groupings, ∀ order,
      (grouping.operator settings order).CompleteFor grouping.entry)
    (fields : ∀ entry kind, ⟨entry, some kind⟩ ∈ measures →
      entry ∈ values ∧ entry.NamesField (entry.field.getD ""))
    (nested : nest settings measures firstMetric depth groupings =
      .ok (aggregations, slots)) :
    ∀ named ∈ aggregations,
      named.2.Complete values (groupings.map Grouping.entry) := by
  -- Outside of the innermost level, sorting can only add to what is complete.
  induction groupings generalizing depth aggregations slots with
  | nil =>
      cases nested
      rintro ⟨id, node⟩ there
      rcases mem_metrics.mp there with ⟨_, entry, kind, found, _, rfl⟩
      rcases fields entry kind (List.mem_of_getElem? found) with
        ⟨asked, field⟩
      exact .metric asked field
  | cons grouping rest ih =>
      rcases nest_cons_eq_ok_iff.mp nested with
        ⟨below, inner, order, after, deeper, sorted, rfl, rfl⟩
      rcases List.forall_mem_cons.mp operators with ⟨here, further⟩
      have inside := complete_of_sorted fields (ih further deeper) sorted
      intro named there
      rw [List.mem_singleton.mp there]
      exact .bucket (here order) inside

end Nested

/-! ## Charts -/

section Charts

variable {catalog : Catalog} {chart : Chart} {settings : CompilerSettings}
  {options : CompileOptions} {compiled : CompiledChart}

/-- An accepted entry is allowed by a function that requires what it needs. -/
theorem Catalog.Demanding.exists_allows (demanding : catalog.Demanding)
    (valid : catalog.validate chart = .ok ()) {axis : Axis}
    {entry : AxisEntry} {handler : Handler}
    (written : entry ∈ chart.entries axis)
    (handled : catalog.handler? entry = some handler) :
    ∃ (function : FunctionDescriptor) (index : IndexMapping),
      function.Allows catalog index axis entry ∧
        ∀ key ∈ handler.needs, key ∈ Keyed.keys function.required := by
  rcases Catalog.exists_allows_of_validate valid written with
    ⟨index, function, applied, allows⟩
  rw [Catalog.handler?, applied, Option.bind_some] at handled
  exact ⟨function, index, allows,
    demanding _ (Keyed.mem_of_get? applied) handler handled⟩

/-- With a demanding catalog an accepted chart has a complete request. -/
theorem complete_of_demanding (demanding : catalog.Demanding)
    (valid : catalog.validate chart = .ok ())
    (compiles : catalog.compile settings options chart = .ok compiled) :
    ∀ named ∈ compiled.request.aggregations,
      named.2.Complete (chart.entries .value) (chart.entries .main) := by
  rcases Catalog.compile_eq_ok_iff.mp compiles with
    ⟨groupings, measures, aggregations, slots, mains, values, nested, rfl⟩
  have paired : List.Forall₂ Eq (chart.entries .main)
      (groupings.map Grouping.entry) := by
    rw [List.forall₂_map_right_iff]
    exact (resolveAll_eq_ok_iff.mp mains).imp fun _ _ made =>
      (Catalog.grouping_eq_ok_iff.mp made).1.symm
  rw [List.forall₂_eq_eq_eq] at paired
  rw [paired]
  refine complete_nest ?_ ?_ nested
  · intro grouping member order
    rcases Outcome.exists_of_mem_right (resolveAll_eq_ok_iff.mp mains) member
      with ⟨entry, written, made⟩
    rcases Catalog.grouping_eq_ok_iff.mp made with ⟨rfl, handled⟩
    rcases demanding.exists_allows valid written handled with
      ⟨function, index, allows, demanded⟩
    exact allows.completeFor_operator demanded settings options order
  · intro entry kind member
    rcases Outcome.exists_of_mem_right (resolveAll_eq_ok_iff.mp values) member
      with ⟨owner, written, made⟩
    rcases Catalog.measure_eq_ok_iff.mp made with ⟨rfl, handled⟩
    rcases demanding.exists_allows valid written handled with
      ⟨function, index, allows, demanded⟩
    exact ⟨written, allows.namesField (demanded _ List.mem_cons_self)⟩

end Charts

theorem demanding_builtin {catalog : Catalog}
    (resolved : CatalogFile.builtin.resolve = .ok catalog) :
    catalog.Demanding := by
  have same : Sample.catalog = catalog :=
    Except.ok.inj (Sample.resolve_builtin.symm.trans resolved)
  rw [← same]
  decide +kernel

/--
A chart that is accepted with the built-in catalog has a complete request,
whatever the settings: no interval is made up, and no grouping and no metric,
auxiliary ones included, is without a field, unless its entry has the name of a
field among its options.  No entry that is read from a document has.
-/
theorem complete_of_validate_builtin
    {catalog : Catalog} {chart : Chart} {compiled : CompiledChart}
    (settings : CompilerSettings) (options : CompileOptions)
    (resolved : CatalogFile.builtin.resolve = .ok catalog)
    (valid : catalog.validate chart = .ok ())
    (compiles : catalog.compile settings options chart = .ok compiled) :
    (∀ named ∈ compiled.request.aggregations,
      named.2.Complete (chart.entries .value) (chart.entries .main)) ∧
    ∀ document, Chart.ofJson? document = some chart →
      ∀ axis, ∀ entry ∈ chart.entries axis, entry.FieldApart :=
  ⟨complete_of_demanding (demanding_builtin resolved) valid compiles,
    fun _ read axis entry member =>
      Chart.separate_of_ofJson? read axis entry member _ (by decide)⟩

/--
Three groupings, two of them with a metric that is there for sorting only, and a
grouping by intervals of a number.
-/
theorem complete_of_validate_builtin_samples :
    CatalogFile.builtin.resolve = .ok Sample.catalog ∧
      ∀ chart ∈ [Sample.ordered, Sample.uneven], ∃ compiled,
        Sample.catalog.validate chart = .ok () ∧
          Sample.catalog.compile .standard .none chart = .ok compiled ∧
          (∀ named ∈ compiled.request.aggregations,
            named.2.Complete (chart.entries .value) (chart.entries .main)) ∧
          Chart.ofJson? chart.toJson = some chart ∧
          ∀ axis, ∀ entry ∈ chart.entries axis, entry.FieldApart := by
  have accepted : ∀ chart ∈ [Sample.ordered, Sample.uneven],
      (Sample.catalog.validate chart).toBool = true := by
    decide +kernel
  have succeeds : ∀ chart ∈ [Sample.ordered, Sample.uneven],
      (Sample.catalog.compile .standard .none chart).toBool = true := by
    decide +kernel
  have read : ∀ chart ∈ [Sample.ordered, Sample.uneven],
      Chart.ofJson? chart.toJson = some chart := by
    decide +kernel
  refine ⟨Sample.resolve_builtin, fun chart member => ?_⟩
  rcases Outcome.exists_ok_of_toBool (accepted chart member) with ⟨_, valid⟩
  rcases Outcome.exists_ok_of_toBool (succeeds chart member) with
    ⟨compiled, compiles⟩
  rcases complete_of_validate_builtin .standard .none Sample.resolve_builtin
      valid compiles with
    ⟨complete, apart⟩
  exact ⟨compiled, valid, compiles, complete, read chart member,
    apart _ (read chart member)⟩

/--
Made by hand, a chart is accepted with its fields among the options, and its
request has none.  And an interval that is no float is not the one of the
request, which has the nearest float in its place.
-/
theorem incomplete_handmade_uneven :
    CatalogFile.builtin.resolve = .ok Sample.catalog ∧
      (Sample.catalog.validate Sample.handmade = .ok () ∧
        ∃ compiled, Sample.catalog.compile .standard .none Sample.handmade =
            .ok compiled ∧
          compiled.request.aggregations =
            [("0", .bucket (.terms ⟨"", 5, 0, none, [("_count", .desc)]⟩)
              [("2", .metric .avg none)])]) ∧
      Chart.ofJson? Sample.uneven.toJson = some Sample.uneven ∧
      Sample.catalog.validate Sample.uneven = .ok () ∧
        ∃ entry number compiled body below,
          entry ∈ Sample.uneven.entries .main ∧
            Keyed.get? "interval" entry.options = some (.number number) ∧
            number.toRat = 9007199254740993 ∧
            Sample.catalog.compile .standard .none Sample.uneven =
              .ok compiled ∧
            compiled.request.aggregations =
              [("0", .bucket (.histogram body) below)] ∧
            body.interval.toRat = 9007199254740992 := by
  have accepted : (Sample.catalog.validate Sample.handmade).toBool = true := by
    decide +kernel
  have nameless :
      (Sample.catalog.compile .standard .none
        Sample.handmade).toOption.any
        (fun compiled => decide (compiled.request.aggregations =
          [("0", .bucket (.terms ⟨"", 5, 0, none, [("_count", .desc)]⟩)
            [("2", .metric .avg none)])])) = true := by
    decide +kernel
  have read : Chart.ofJson? Sample.uneven.toJson = some Sample.uneven := by
    decide +kernel
  have passes : (Sample.catalog.validate Sample.uneven).toBool = true := by
    decide +kernel
  have rounded :
      (Sample.catalog.compile .standard .none
        Sample.uneven).toOption.any
        (fun compiled => decide (compiled.request.aggregations =
          [("0", .bucket
            (.histogram
              ⟨"holdCount", ⟨false, 1076 * 2 ^ 52, by decide⟩, 0, none⟩)
            [])])) = true := by
    decide +kernel
  rcases Outcome.exists_ok_of_toBool accepted with ⟨_, handmade⟩
  rcases Outcome.exists_ok_of_any nameless with ⟨first, compiles, nodes⟩
  rcases Outcome.exists_ok_of_toBool passes with ⟨_, uneven⟩
  rcases Outcome.exists_ok_of_any rounded with ⟨second, succeeds, node⟩
  refine ⟨Sample.resolve_builtin,
    ⟨handmade, first, compiles, of_decide_eq_true nodes⟩, read, uneven, _, _,
    second, _, _, List.mem_singleton_self _, rfl, ?_, succeeds,
    of_decide_eq_true node, ?_⟩
  · have word : (9007199254740993 : UInt64).toNat = 9007199254740993 := rfl
    norm_num [Json.Number.toRat, Json.Number.ofUInt64, word]
  · norm_num [Binary64.toRat, Binary64.significand, Binary64.exponent]

end ChartQuery
