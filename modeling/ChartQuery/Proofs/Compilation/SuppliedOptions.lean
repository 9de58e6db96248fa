import ChartQuery.Aggregation.Document
import ChartQuery.Proofs.Binary64.Rounding
import ChartQuery.Proofs.Compilation.Groupings
import ChartQuery.Proofs.Sample
import ChartQuery.Proofs.Validation.Entries

/-!
# Options in a request

Compilation has a default for every option of a grouping, and it reads an option
of the wrong form as one that is left out.  In a chart that validation accepts
no option has the wrong form.  So a grouping has what its entry gives, and a
default stands only for an option that the entry does not give at all.

The three kinds of grouping have different members.  An option that a kind has
no member for is not in the request, even where the catalog declares it.
-/

namespace ChartQuery

/-! ## What an entry gives -/

/-- A grouping of top values has what the entry gives. -/
structure TermsBody.Carries (settings : CompilerSettings) (entry : AxisEntry)
    (body : TermsBody) : Prop where
  field : body.field = entry.field.getD ""
  /-- Of the two options for the number of groups, `terms_size` comes first. -/
  size : .ofUInt64 body.size =
    entry.writtenOr "terms_size"
      (entry.writtenOr "size" (.ofUInt64 settings.termsSize))
  minDocCount : .ofUInt64 body.minDocCount =
    entry.writtenOr "min_doc_count" (.ofUInt64 0)
  missing : body.missing = Keyed.get? "missing" entry.options

/-- A grouping by intervals of time has what the entry and the call give. -/
structure DateHistogramBody.Carries (settings : CompilerSettings)
    (options : CompileOptions) (entry : AxisEntry)
    (body : DateHistogramBody) : Prop where
  field : body.field = entry.field.getD ""
  fixedInterval : .string body.fixedInterval =
    entry.writtenOr "fixed_interval" (.string "")
  minDocCount : .ofUInt64 body.minDocCount =
    entry.writtenOr "min_doc_count" (.ofUInt64 0)
  /-- Without a zone in the entry, the configured one stands if it is not empty. -/
  timeZone : body.timeZone.map .string =
    (Keyed.get? "timeZone" entry.options).or
      (if settings.timeZone = "" then none
      else some (.string settings.timeZone))
  extendedBounds : body.extendedBounds = options.bounds.or settings.bounds

/-- A grouping by intervals of a number has what the entry gives. -/
structure HistogramBody.Carries (entry : AxisEntry) (body : HistogramBody) :
    Prop where
  field : body.field = entry.field.getD ""
  /-- The interval is the number of the entry as a float, and none is nearer. -/
  interval : ∃ number,
    entry.writtenOr "interval" (.number (.float Binary64.zero)) =
        .number number ∧
      body.interval = number.toBinary64 ∧ body.interval.Nearest number.toRat
  minDocCount : .ofUInt64 body.minDocCount =
    entry.writtenOr "min_doc_count" (.ofUInt64 0)
  missing : body.missing = Keyed.get? "missing" entry.options

/-- A grouping of the kind has what the entry and the call give. -/
def Operator.Carries (settings : CompilerSettings) (options : CompileOptions)
    (entry : AxisEntry) : BucketKind → Operator → Prop
  | .terms, .terms body => body.Carries settings entry
  | .dateHistogram, .dateHistogram body => body.Carries settings options entry
  | .histogram, .histogram body => body.Carries entry
  | _, _ => False

/-! ## Groupings -/

/-- The number of groups is the first that is written, or the default. -/
theorem AxisEntry.ofUInt64_termsSize {entry : AxisEntry}
    (settings : CompilerSettings)
    (termsFits : entry.Fits "terms_size" .count)
    (sizeFits : entry.Fits "size" .count) :
    .ofUInt64 (entry.termsSize settings) =
      entry.writtenOr "terms_size"
        (entry.writtenOr "size" (.ofUInt64 settings.termsSize)) := by
  have chosen : entry.termsSize settings =
      (entry.count? "terms_size").getD
        ((entry.count? "size").getD settings.termsSize) := by
    unfold AxisEntry.termsSize
    cases entry.count? "terms_size" <;> rfl
  rw [chosen, AxisEntry.ofUInt64_getD_count? termsFits,
    AxisEntry.ofUInt64_getD_count? sizeFits]

/-- An empty name is that of no zone. -/
theorem CompilerSettings.map_timeZone? (settings : CompilerSettings) :
    settings.timeZone?.map Json.string =
      if settings.timeZone = "" then none
      else some (.string settings.timeZone) := by
  unfold timeZone?
  simp only [String.isEmpty_iff]
  split <;> rfl

theorem Grouping.carries_operator {entry : AxisEntry}
    (kind : BucketKind) (settings : CompilerSettings)
    (options : CompileOptions) (order : Keyed String SortDirection)
    (fits : ∀ {key format}, (key, format) ∈ OptionFormat.checked →
      entry.Fits key format) :
    Operator.Carries settings options entry kind
      (Grouping.operator ⟨entry, kind⟩ (settings.override options) order) := by
  have counted : .ofUInt64 ((entry.count? "min_doc_count").getD 0) =
      entry.writtenOr "min_doc_count" (.ofUInt64 0) :=
    AxisEntry.ofUInt64_getD_count? (fits (by decide)) 0
  have missingFits : entry.Fits "missing" .text := fits (by decide)
  have stands : entry.option? "missing" = Keyed.get? "missing" entry.options :=
    AxisEntry.option?_of_fits missingFits
  cases kind with
  | terms =>
      constructor
      · rfl
      · exact AxisEntry.ofUInt64_termsSize _ (fits (by decide))
          (fits (by decide))
      · exact counted
      · exact stands
  | dateHistogram =>
      constructor
      · rfl
      · have intervalFits : entry.Fits "fixed_interval" .fixedInterval :=
          fits (by decide)
        exact AxisEntry.string_getD_text? intervalFits rfl ""
      · exact counted
      · have zoneFits : entry.Fits "timeZone" .timeZone := fits (by decide)
        rw [← AxisEntry.map_text? zoneFits rfl, ← settings.map_timeZone?,
          ← Option.map_or]
        rfl
      · rfl
  | histogram =>
      constructor
      · rfl
      · have intervalFits : entry.Fits "interval" .number := fits (by decide)
        rcases AxisEntry.exists_number_writtenOr intervalFits Binary64.zero with
          ⟨number, written, read⟩
        exact ⟨number, written, read, read ▸ number.nearest_toBinary64⟩
      · exact counted
      · exact stands

/-! ## Charts -/

/--
In every accepted chart that compiles, the grouping at the depth of a main entry
is of the entry's kind and has what the entry gives.
-/
theorem carries_of_validate
    {catalog : Catalog} {settings : CompilerSettings}
    {options : CompileOptions} {chart : Chart} {compiled : CompiledChart}
    {depth : Nat} {entry : AxisEntry}
    (valid : catalog.validate chart = .ok ())
    (compiles : catalog.compile settings options chart = .ok compiled)
    (placed : (chart.entries .main)[depth]? = some entry) :
    ∃ kind operator below,
      catalog.handler? entry = some (.bucket kind) ∧
        compiled.request.aggregations.groupingAt? depth =
          some (.bucket operator below) ∧
        operator.Carries settings options entry kind := by
  rcases Catalog.exists_grouping_of_compile compiles placed with
    ⟨⟨owner, kind⟩, _, _, _, order, after, made, _, _, found⟩
  rcases Catalog.grouping_eq_ok_iff.mp made with ⟨rfl, handled⟩
  rcases Catalog.validate_eq_ok_iff.mp valid with
    ⟨index, _, _, _, _, _, passes⟩
  have passes := passes .main owner (List.mem_of_getElem? placed)
  exact ⟨kind, _, after, handled, found,
    Grouping.carries_operator kind settings options order
      (fun checked => fits_of_checkEntry passes checked)⟩

/--
Hours have the zone of the settings.  The grouping inside gives its number of
groups twice and a stand-in.
-/
theorem carries_of_validate_detailed :
    ∃ compiled hours states inside below,
      Sample.catalog.validate Sample.detailed = .ok () ∧
        Sample.catalog.compile .standard .none Sample.detailed = .ok compiled ∧
        Sample.detailed.entries .main = [Sample.hours, Sample.threeStates] ∧
        Sample.catalog.handler? Sample.hours = some (.bucket .dateHistogram) ∧
        Sample.catalog.handler? Sample.threeStates = some (.bucket .terms) ∧
        compiled.request.aggregations.groupingAt? 0 =
          some (.bucket (.dateHistogram hours) inside) ∧
        hours.Carries .standard .none Sample.hours ∧
        compiled.request.aggregations.groupingAt? 1 =
          some (.bucket (.terms states) below) ∧
        states.Carries .standard Sample.threeStates := by
  have accepted : (Sample.catalog.validate Sample.detailed).toBool = true := by
    decide +kernel
  have succeeds :
      (Sample.catalog.compile .standard .none Sample.detailed).toBool = true := by
    decide +kernel
  have byTime : Sample.catalog.handler? Sample.hours =
      some (.bucket .dateHistogram) := by decide +kernel
  have byValue : Sample.catalog.handler? Sample.threeStates =
      some (.bucket .terms) := by decide +kernel
  rcases Outcome.exists_ok_of_toBool accepted with ⟨_, valid⟩
  rcases Outcome.exists_ok_of_toBool succeeds with ⟨compiled, compiles⟩
  have outer : (Sample.detailed.entries .main)[0]? = some Sample.hours := rfl
  have inner : (Sample.detailed.entries .main)[1]? =
      some Sample.threeStates := rfl
  rcases carries_of_validate valid compiles outer with
    ⟨_, first, inside, handled, atOuter, hours⟩
  cases byTime.symm.trans handled
  rcases carries_of_validate valid compiles inner with
    ⟨_, second, below, handled, atInner, states⟩
  cases byValue.symm.trans handled
  -- What a grouping carries tells the kind of its operator.
  cases first with
  | dateHistogram first =>
      cases second with
      | terms second =>
          exact ⟨compiled, first, second, inside, below, valid, compiles, rfl,
            byTime, byValue, atOuter, hours, atInner, states⟩
      | _ => exact states.elim
  | _ => exact hours.elim

/--
A date histogram has no member for `missing`: the catalog declares the option,
the chart gives it and is accepted, and the request goes without.
-/
theorem missing_timeline :
    Sample.timelineFile.resolve = .ok Sample.timelineCatalog ∧
      Sample.timelineCatalog.validate Sample.timeline = .ok () ∧
      ∃ compiled entry operator below,
        Sample.timelineCatalog.compile .standard .none Sample.timeline =
            .ok compiled ∧
          (Sample.timeline.entries .main)[0]? = some entry ∧
          Keyed.get? "missing" entry.options =
            some (.string "2024-01-01") ∧
          compiled.request.aggregations.groupingAt? 0 =
            some (.bucket operator below) ∧
          operator.body.member? "missing" = none := by
  have accepted :
      (Sample.timelineCatalog.validate Sample.timeline).toBool = true := by
    decide +kernel
  have nodes :
      (Sample.timelineCatalog.compile .standard .none
        Sample.timeline).toOption.any
        (fun compiled => decide (
          compiled.request.aggregations.groupingAt? 0 =
            some (.bucket
              (.dateHistogram
                ⟨"time", "1h", 0, some "Asia/Calcutta", none⟩) []))) = true := by
    decide +kernel
  rcases Outcome.exists_ok_of_toBool accepted with ⟨_, valid⟩
  rcases Outcome.exists_ok_of_any nodes with ⟨compiled, compiles, node⟩
  refine ⟨Sample.resolve_timelineFile, valid, compiled, _, _, _, compiles, rfl,
    ?_, of_decide_eq_true node, ?_⟩
  · decide
  · decide

end ChartQuery
