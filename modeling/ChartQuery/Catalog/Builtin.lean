import ChartQuery.Catalog.Resolution

/-!
# The built-in catalog

The catalog that is used when no other is given: twelve functions, of which ten
have a handler, fifteen module types and three data views.  `median` and
`last_value` are listed for editors of charts and have no aggregation yet.
-/

namespace ChartQuery.CatalogFile.Builtin

/-- The field types that hold numbers. -/
def numeric : List String :=
  ["long", "integer", "short", "byte", "double", "float", "half_float",
   "scaled_float"]

/-- The indices with the field types that are known. -/
def indices : Keyed String IndexMapping :=
  [("stock_market_data", ⟨some "lib/index-Stock.json", []⟩),
   ("callLogs*", ⟨some "lib/index-callLogs.json",
      [("callStatus", "keyword"), ("callLiveStatus", "keyword"),
       ("did", "keyword"), ("clickTime", "date"), ("holdCount", "long"),
       ("duration.agentOnCall", "double"), ("duration.lastFirst", "double"),
       ("duration.queue", "double")]⟩),
   ("breakLogs", ⟨some "lib/index-breakLogs.json", []⟩)]

/-- The data views. -/
def dataViews : Keyed String DataView :=
  [("Stock Market", ⟨some "stock_market_data"⟩),
   ("Call Logs Report", ⟨some "callLogs*"⟩),
   ("Break Logs Report", ⟨some "breakLogs"⟩)]

/-- A module type with one grouping and any number of metrics. -/
def series (graphType : String) : ModuleSpec :=
  ⟨graphType, .single, .multiple, some "value"⟩

/-- A module type with any number of groupings and one metric. -/
def round (graphType : String) : ModuleSpec :=
  ⟨graphType, .multiple, .single, some "main"⟩

/-- The module types. -/
def moduleTypes : Keyed String ModuleSpec :=
  [("bar_horizontal", series "Bar Horizontal"),
   ("bar_horizontal_stacked", series "Bar Horizontal Stacked"),
   ("bar_horizontal_percentage", series "Bar Horizontal Percentage"),
   ("bar_vertical", series "Bar Vertical"),
   ("bar_vertical_stacked", series "Bar Vertical Stacked"),
   ("bar_vertical_percentage", series "Bar Vertical Percentage"),
   ("line_chart", series "Line Chart"),
   ("area_stacked", series "Area Stacked"),
   ("area_percentage", series "Area Percentage"),
   ("heat_map", ⟨"Heat Map", .single, .single, some "value"⟩),
   ("scatter_plot", ⟨"Scatter Plot", .notApplicable, .single, some "value"⟩),
   ("pie_chart", round "Pie Chart"),
   ("donut_chart", round "Donut Chart"),
   ("metric", ⟨"Metric", .notApplicable, .single, some "value"⟩),
   ("data_table", ⟨"Data Table", .multiple, .multiple, none⟩)]

/-- A function with a query type, an aggregation type and further options. -/
def function (axis : Axis) (name description queryType aggregationType : String)
    (validDataTypes required optional : List String) : FunctionSpec where
  name
  description
  axis
  validDataTypes
  options := some {
    required :=
      [("queryType", some [queryType]),
       ("aggregationType", some [aggregationType])] ++
        required.map (fun key => (key, none))
    optional := optional.map (fun key => (key, none)) }

/-- A grouping of a field. -/
def grouping (name description aggregationType : String)
    (validDataTypes required optional : List String) : FunctionSpec :=
  function .main name description "aggregation" aggregationType
    validDataTypes ("aggregationField" :: required) optional

/-- A metric of a field. -/
def metric (name description aggregationType : String)
    (validDataTypes : List String) : FunctionSpec :=
  function .value name description "aggregation" aggregationType
    validDataTypes ["aggregationField"] ["color"]

/-- A metric that is only listed. -/
def listed (name description : String) (validDataTypes : List String) :
    FunctionSpec :=
  ⟨name, description, .value, validDataTypes, none⟩

/-- The functions. -/
def functions : Keyed String FunctionSpec :=
  [("date_histogram", grouping "Date Histogram"
      "Aggregates data into intervals based on a date field."
      "date_histogram" ["date"] ["fixed_interval"] ["timeZone", "min_doc_count"]),
   ("top_values", grouping "Top Values"
      "Displays the most frequently occurring values."
      "terms" (["keyword", "text"] ++ numeric ++ ["boolean", "ip"]) []
      ["size", "min_doc_count", "terms_size", "missing", "order"]),
   ("histogram", grouping "Histogram"
      "Aggregates numeric values into intervals."
      "histogram" numeric ["interval"] ["min_doc_count", "missing"]),
   ("count", function .value "Count"
      "Counts the number of documents in each group."
      "count" "doc_count" ["all"] [] ["color"]),
   ("value_count", metric "Value Count"
      "Counts the number of non-null values in a specific field."
      "value_count" (["keyword", "text"] ++ numeric ++ ["date", "boolean"])),
   ("sum", metric "Sum" "Calculates the sum of numeric values." "sum" numeric),
   ("avg", metric "Average" "Calculates the average of numeric values."
      "avg" numeric),
   ("min", metric "Min" "Finds the minimum value for numeric or date fields."
      "min" (numeric ++ ["date"])),
   ("max", metric "Max" "Finds the maximum value for numeric or date fields."
      "max" (numeric ++ ["date"])),
   ("cardinality", metric "Cardinality"
      "Calculates the unique count of values for fields with discrete values."
      "cardinality" (["keyword", "text"] ++ numeric ++ ["boolean", "ip"])),
   ("median", listed "Median" "Calculates the median value of numeric fields."
      numeric),
   ("last_value", listed "Last Value"
      "Retrieves the most recent value of the specified field."
      (numeric ++ ["date"]))]

end ChartQuery.CatalogFile.Builtin

namespace ChartQuery

/-- The built-in catalog as a file. -/
def CatalogFile.builtin : CatalogFile where
  optionKeys := standardOptionKeys
  indices := Builtin.indices
  dataViews := Builtin.dataViews
  moduleTypes := Builtin.moduleTypes
  functions := Builtin.functions

end ChartQuery
