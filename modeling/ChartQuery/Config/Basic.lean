import ChartQuery.Compilation.Settings
import ChartQuery.Home

/-!
# Configuration

Which catalog is used, the defaults of compilation, and what is logged where.
-/

namespace ChartQuery

/-- What is logged, and where to. -/
structure Logging where
  level : String
  file : Option String
deriving DecidableEq

/-- A configuration. -/
structure Config where
  /-- The catalog file; the built-in catalog is used without one. -/
  catalogPath : Option String
  compiler : CompilerSettings
  logging : Logging
  logFormat : String
deriving DecidableEq

namespace Config

/-- The configuration that is used when nothing is configured. -/
def standard : Config :=
  ⟨none, .standard, ⟨"info", none⟩, "pretty"⟩

/-- Expand a leading `~` in the paths of a configuration. -/
def expandPaths (home : String) (config : Config) : Config :=
  { config with
    catalogPath := config.catalogPath.map (expandTilde home)
    logging :=
      { config.logging with file := config.logging.file.map (expandTilde home) } }

end Config

end ChartQuery
