import ChartQuery.Aggregation.Basic

/-!
# Settings of compilation

Defaults that apply to every chart, and what a single call says on top of them.
-/

namespace ChartQuery

/-- Defaults for what a chart leaves open. -/
structure CompilerSettings where
  /-- The number of groups of a top-values entry that gives no number. -/
  termsSize : UInt64
  /-- The time zone of a date histogram that gives none; empty for none. -/
  timeZone : String
  /-- The range that date histograms are extended to. -/
  bounds : Option Bounds
  /-- The query clause of a request. -/
  query : Option Json
deriving DecidableEq

namespace CompilerSettings

/-- The settings that are used when nothing is configured. -/
def standard : CompilerSettings := ⟨5, "Asia/Calcutta", none, none⟩

/-- The default time zone, unless it is empty. -/
def timeZone? (settings : CompilerSettings) : Option String :=
  if settings.timeZone.isEmpty then none else some settings.timeZone

/-- The default query clause; without one, everything matches. -/
def defaultQuery (settings : CompilerSettings) : Json :=
  settings.query.getD matchEverything

end CompilerSettings

/-- What a single compilation sets in place of the defaults. -/
structure CompileOptions where
  bounds : Option Bounds
  query : Option Json
deriving DecidableEq

/-- A compilation that sets nothing. -/
def CompileOptions.none : CompileOptions := ⟨.none, .none⟩

end ChartQuery
