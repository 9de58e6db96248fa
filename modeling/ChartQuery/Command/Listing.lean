import ChartQuery.Catalog.Basic
import ChartQuery.Command.Arguments

/-!
# Listings of a catalog

A part of a catalog is listed under its title and a rule, a line per entry in
columns, with a blank line at the end.
-/

namespace ChartQuery.Command

/-- A text with spaces behind it up to a width. -/
def column (width : Nat) (text : String) : String :=
  text ++ "".pushn ' ' (width - text.length)

/-- The title of a part. -/
def Listing.title : Listing → String
  | .functions => "Functions"
  | .moduleTypes => "Module types"
  | .dataViews => "Data views"

/-- The word for a frequency in listings. -/
def frequencyWord : Frequency → String
  | .single => "single"
  | .multiple => "multiple"
  | .notApplicable => "n/a"

/-- The line of a function. -/
def functionLine (function : FunctionDescriptor) : String :=
  "  " ++ column 16 function.id ++ " " ++ column 6 function.axis.role ++ " " ++
    column 16 ((function.handler.map Handler.name).getD "-") ++ " " ++
    function.name

/-- The line of a module type. -/
def moduleLine (module : ModuleType) : String :=
  "  " ++ column 28 module.id ++
    " main=" ++ column 9 (frequencyWord module.main) ++
    " value=" ++ column 9 (frequencyWord module.value) ++ " " ++ module.graphType

/-- The line of a data view. -/
def viewLine (entry : String × DataView) : String :=
  "  " ++ column 24 entry.1 ++ " -> " ++ entry.2.mappedIndex.getD "-"

/-- The lines of a part of a catalog. -/
def Listing.lines (catalog : Catalog) : Listing → List String
  | .functions => catalog.functions.map (fun entry => functionLine entry.2)
  | .moduleTypes => catalog.moduleTypes.map (fun entry => moduleLine entry.2)
  | .dataViews => catalog.dataViews.map viewLine

/-- The text of a part of a catalog. -/
def Listing.text (catalog : Catalog) (listing : Listing) : String :=
  String.join
    (([listing.title, "".pushn '-' 80] ++ listing.lines catalog ++ [""]).map
      (fun line => line ++ "\n"))

end ChartQuery.Command
