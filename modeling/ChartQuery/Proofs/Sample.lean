import ChartQuery.Catalog.Builtin
import ChartQuery.Compilation.Basic
import ChartQuery.Decoding.Basic
import ChartQuery.Proofs.Outcome
import ChartQuery.Validation.Basic

/-!
# Sample charts

The built-in catalog, resolved, and charts over it at which the theorems of this
library are applied.  `ordered` nests three groupings, two of them sorted by a
metric, over a value axis with a count between two metrics.  `unreachable` sorts
by a position that its value axis does not have.  `twoCounts` asks for the
number of documents twice.  `detailed` gives most options of a grouping.
`reversed`, `reordered` and `filled` differ from `ordered` in the places of the
entries, in their orders and in options that are filled in; `respelled` says the
same as `rareStates`, with `respelledArray` for a document, and
`misnamedReversed` the same as `misnamed`.  `misshapen` breaks two more rules.
No document reads as `handmade`, and `uneven` loses a bit when it is compiled.

`timeline` is a chart over another catalog, in which a date histogram declares
`missing`.  `choices` is a chart over a third one, whose functions leave a choice
of aggregation types and of colours.

`orderedResponse` and `countsResponse` answer the requests of two of the charts;
`faultyResponse` does not quite answer that of the first.  `verboseResponse` and
`unsortedResponse` differ from the two in what is not read.  `mixedResponse` also
answers the second request, with keys of two kinds, and `writtenSlots` reads it
in another way.  `overrides` gives titles and replaces keys, and has a word for a
value too.
-/

namespace ChartQuery.Sample

/-- The built-in catalog. -/
def catalog : Catalog :=
  CatalogFile.builtin.resolve.toOption.get (by decide +kernel)

theorem resolve_builtin : CatalogFile.builtin.resolve = .ok catalog :=
  Outcome.eq_ok_get_toOption _

/-- An `order` option that sorts by a position of the value axis. -/
def orderBy (position direction : String) : Keyed String Json :=
  [("order", .object
    [("field", .string ("value_axis." ++ position)),
     ("direction", .string direction)])]

/-- The most frequent states, with options. -/
def topStates (options : Keyed String Json)
    (distinct : Keyed.Distinct options := by decide) : AxisEntry :=
  ⟨"top_values", some "callStatus", options, distinct⟩

/-- Intervals of an hour. -/
def hours : AxisEntry :=
  ⟨"date_histogram", some "clickTime", [("fixed_interval", .string "1h")],
    by decide⟩

/-- A metric of a field. -/
def metric (function field : String) : AxisEntry :=
  ⟨function, some field, [], by decide⟩

/-- The number of documents. -/
def count : AxisEntry := ⟨"count", none, [], by decide⟩

/-- A table with these axes. -/
def table (main value : List AxisEntry) : Chart :=
  ⟨"Call Logs Report", "data_table", some main, some value⟩

/-- Three groupings over two metrics and a count. -/
def ordered : Chart :=
  table [topStates (orderBy "2" "asc"), hours, topStates (orderBy "0" "desc")]
    [metric "avg" "holdCount", count, metric "sum" "duration.queue"]

/-- A grouping sorted by the fourth of two values. -/
def unreachable : Chart :=
  table [topStates (orderBy "3" "desc")] [metric "avg" "holdCount", count]

/-- A grouping over a metric between two counts. -/
def twoCounts : Chart :=
  table [topStates []] [count, metric "avg" "holdCount", count]

/-- The three most frequent states, or `none` where there is no state. -/
def threeStates : AxisEntry :=
  topStates
    [("size", .ofUInt64 7), ("terms_size", .ofUInt64 3),
     ("missing", .string "none")]

/-- A grouping with most of its options. -/
def detailed : Chart := table [hours, threeStates] [count]

/-- The entries of `ordered` the other way round. -/
def reversed : Chart :=
  table (ordered.entries .main).reverse (ordered.entries .value).reverse

/-- The groupings of `ordered`, sorted in other ways. -/
def reordered : Chart :=
  table [topStates (orderBy "0" "asc"), hours, topStates []]
    [metric "avg" "holdCount", count, metric "sum" "duration.queue"]

/-- Intervals of an hour, with the query type. -/
def filledHours : AxisEntry :=
  ⟨"date_histogram", some "clickTime",
    [("fixed_interval", .string "1h"), ("queryType", .string "aggregation")],
    by decide⟩

/-- The number of documents, with the aggregation type. -/
def filledCount : AxisEntry :=
  ⟨"count", none, [("aggregationType", .string "doc_count")], by decide⟩

/-- The entries of `ordered`, two of them with an option that is filled in. -/
def filled : Chart :=
  table
    [topStates (orderBy "2" "asc"), filledHours, topStates (orderBy "0" "desc")]
    [metric "avg" "holdCount", filledCount, metric "sum" "duration.queue"]

/-- Hours and the rarest of three states, over no values. -/
def rareStates : Chart :=
  table
    [hours,
     topStates
      [("size", .ofUInt64 3), ("missing", .string "none"),
       ("order", .object [("direction", .string "asc")])]]
    []

/-- The same in other words: without the axis, and with options left `null`. -/
def respelled : Chart :=
  ⟨"", "", some
    [⟨"date_histogram", some "clickTime",
      [("timeZone", .null), ("fixed_interval", .string "1h")], by decide⟩,
     topStates
      [("order", .object [("direction", .string "asc")]),
       ("terms_size", .null), ("missing", .string "none"),
       ("size", .ofUInt64 3)]],
    none⟩

/-- That chart as an array, where options stand around the function and a field. -/
def respelledArray : Json :=
  .array
    [.string "", .string "",
     .array
      [.object
        [("timeZone", .null), ("aggregationField", .string "clickTime"),
         ("fixed_interval", .string "1h"),
         ("functionType", .string "date_histogram")],
       .object
        [("order", .object [("direction", .string "asc")]),
         ("functionType", .string "top_values"), ("terms_size", .null),
         ("missing", .string "none"), ("size", .ofUInt64 3),
         ("aggregationField", .string "callStatus")]],
     .null]

/-- Hours over a count with two options that the catalog does not know. -/
def misnamed : Chart :=
  table [hours]
    [⟨"count", none, [("colour", .string "red"), ("shade", .string "dark")],
      by decide⟩]

/-- The same with the two options the other way round. -/
def misnamedReversed : Chart :=
  table [hours]
    [⟨"count", none, [("shade", .string "dark"), ("colour", .string "red")],
      by decide⟩]

/-- Intervals that are no intervals, over a metric of a field without a name. -/
def misshapen : Chart :=
  table
    [⟨"date_histogram", some "clickTime",
      [("fixed_interval", .string "hourly")], by decide⟩]
    [metric "avg" ""]

/-- A grouping and a metric with the names of their fields among the options. -/
def handmade : Chart :=
  table
    [⟨"top_values", none, [("aggregationField", .string "callStatus")],
      by decide⟩]
    [⟨"avg", none, [("aggregationField", .string "holdCount")], by decide⟩]

/-- Intervals of a length that lies between two floats. -/
def uneven : Chart :=
  table
    [⟨"histogram", some "holdCount",
      [("interval", .ofUInt64 9007199254740993)], by decide⟩]
    [count]

/-! ## A catalog with one function -/

/-- A date histogram that declares `missing`. -/
def timelineFile : CatalogFile where
  optionKeys := CatalogFile.standardOptionKeys
  indices := [("logs", ⟨some "logs.json", []⟩)]
  dataViews := [("Logs", ⟨some "logs"⟩)]
  moduleTypes := [("timeline", ⟨"Timeline", .single, .notApplicable, none⟩)]
  functions :=
    [("date_histogram",
      CatalogFile.Builtin.grouping "Date Histogram" "Intervals of time."
        "date_histogram" ["date"] ["fixed_interval"] ["missing"])]

/-- The catalog of the file. -/
def timelineCatalog : Catalog :=
  timelineFile.resolve.toOption.get (by decide +kernel)

theorem resolve_timelineFile : timelineFile.resolve = .ok timelineCatalog :=
  Outcome.eq_ok_get_toOption _

/-- Hours with a stand-in for a time that is missing. -/
def timeline : Chart :=
  ⟨"Logs", "timeline",
    some [⟨"date_histogram", some "time",
      [("fixed_interval", .string "1h"), ("missing", .string "2024-01-01")],
      by decide⟩],
    none⟩

/-! ## A catalog with choices -/

/-- A grouping and a metric that allow two aggregation types each. -/
def choiceFile : CatalogFile where
  optionKeys := CatalogFile.standardOptionKeys
  indices := [("logs", ⟨some "logs.json", []⟩)]
  dataViews := [("Logs", ⟨some "logs"⟩)]
  moduleTypes := [("table", ⟨"Table", .multiple, .multiple, none⟩)]
  functions :=
    [("groups",
      { name := "Groups"
        description := "Groups by a field."
        axis := .main
        validDataTypes := ["all"]
        options := some
          { required :=
              [("aggregationType", some ["terms", "histogram"]),
               ("aggregationField", none)]
            optional := [] } }),
     ("figure",
      { name := "Figure"
        description := "Computes a figure of a field."
        axis := .value
        validDataTypes := ["all"]
        options := some
          { required :=
              [("aggregationType", some ["avg", "sum"]),
               ("aggregationField", none)]
            optional := [("color", some ["blue", "green"])] } })]

/-- The catalog of the file. -/
def choiceCatalog : Catalog :=
  choiceFile.resolve.toOption.get (by decide +kernel)

theorem resolve_choiceFile : choiceFile.resolve = .ok choiceCatalog :=
  Outcome.eq_ok_get_toOption _

/-- States as groups by the first of the allowed aggregation types. -/
def firstChoice : AxisEntry :=
  ⟨"groups", some "state", [("aggregationType", .string "terms")], by decide⟩

/-- A figure by the second of them, in a colour that is not allowed. -/
def secondChoice : AxisEntry :=
  ⟨"figure", some "duration",
    [("aggregationType", .string "sum"), ("color", .string "red")], by decide⟩

/-- A grouping and a figure that both choose. -/
def choices : Chart :=
  ⟨"Logs", "table", some [firstChoice], some [secondChoice]⟩

/-! ## Responses -/

/-- The answer to a metric. -/
def metricAnswer (value : Json) : Json := .object [("value", value)]

/-- The answer to a grouping. -/
def groupingAnswer (buckets : List Json) : Json :=
  .object [("buckets", .array buckets)]

/-- A bucket with the answers inside it. -/
def bucket (key : Json) (docCount : UInt64) (answers : Answers) : Json :=
  .object (("key", key) :: ("doc_count", .ofUInt64 docCount) :: answers)

/-- A response about a number of documents. -/
def response (total : UInt64) (answers : Answers) : Json :=
  .object
    [("hits", .object [("total", .object [("value", .ofUInt64 total)])]),
     ("aggregations", .object answers)]

/-- One state has an hour with two states in it, the other has no hour. -/
def orderedResponse : Json :=
  response 7
    [("0", groupingAnswer
      [bucket (.string "done") 5
        [("1", groupingAnswer
          [bucket (.ofUInt64 1700000000000) 5
            [("2", groupingAnswer
              [bucket (.string "done") 3
                [("4", metricAnswer (.ofUInt64 2)),
                 ("6", metricAnswer (.ofUInt64 6))],
               bucket (.string "lost") 2
                [("4", metricAnswer .null),
                 ("6", metricAnswer (.ofUInt64 1))]])]]),
         ("2", metricAnswer (.ofUInt64 7))],
       bucket (.string "open") 2
        [("1", groupingAnswer []), ("2", metricAnswer (.ofUInt64 0))]])]

/-- The state deepest inside lacks a metric, and the last one its documents. -/
def faultyResponse : Json :=
  response 7
    [("0", groupingAnswer
      [bucket (.string "done") 5
        [("1", groupingAnswer
          [bucket (.ofUInt64 1700000000000) 5
            [("2", groupingAnswer
              [bucket (.string "done") 3
                [("4", metricAnswer (.ofUInt64 2)),
                 ("6", metricAnswer (.ofUInt64 6))],
               bucket (.string "lost") 2
                [("4", metricAnswer .null), ("6", .object [])]])]])],
       .object [("key", .string "open")]])]

/-- One state with documents. -/
def countsResponse : Json :=
  response 5
    [("0", groupingAnswer
      [bucket (.string "done") 5 [("3", metricAnswer (.ofUInt64 2))]])]

/-- Documents with a state, and others with the float `100.0` in its place. -/
def mixedResponse : Json :=
  response 9
    [("0", groupingAnswer
      [bucket (.string "done") 5 [("3", metricAnswer (.ofUInt64 2))],
       bucket (.number (.float ⟨false, 0x4059000000000000, by decide⟩)) 4
        [("3", metricAnswer .null)]])]

/-- The documents of `countsResponse`, with members that no slot stands for. -/
def verboseResponse : Json :=
  .object
    [("took", .ofUInt64 3),
     ("aggregations", .object
      [("0", .object
        [("sum_other_doc_count", .ofUInt64 0),
         ("buckets", .array
          [bucket (.string "done") 5
            [("key_as_string", .string "Done"),
             ("3", .object
              [("value_as_string", .string "2.0"), ("value", .ofUInt64 2)]),
             ("5", metricAnswer (.ofUInt64 9))]])])]),
     ("hits", .object
      [("total", .object
        [("relation", .string "eq"), ("value", .ofUInt64 5)])])]

/-- What sorts the states is not known of the one and missing for the other. -/
def unsortedResponse : Json :=
  response 7
    [("0", groupingAnswer
      [bucket (.string "done") 5
        [("1", groupingAnswer
          [bucket (.ofUInt64 1700000000000) 5
            [("2", groupingAnswer
              [bucket (.string "done") 3
                [("4", metricAnswer (.ofUInt64 2)),
                 ("6", metricAnswer (.ofUInt64 6))],
               bucket (.string "lost") 2
                [("4", metricAnswer .null),
                 ("6", metricAnswer (.ofUInt64 1))]])]]),
         ("2", .null)],
       bucket (.string "open") 2 [("1", groupingAnswer [])]])]

/-! ## Slots -/

/--
Slots that no chart is compiled to: of two groupings on a level the last one
counts, and a value inside it is at the position of one outside.
-/
def writtenSlots : Slots :=
  [("count", .value 0), ("1", .main 0 []),
   ("0", .main 1 [("3", .value 0), ("count", .value 1)])]

/-! ## Overrides -/

/-- Titles for the outermost grouping and a value, and words for their cells. -/
def overrides : Overrides where
  titles := [(.main, [(0, "State")]), (.value, [(2, "Documents")])]
  values :=
    [(.main, [(0, [("done", .string "finished"), ("100", .string "full")])]),
     (.value, [(1, [("2", .null)])])]

end ChartQuery.Sample
