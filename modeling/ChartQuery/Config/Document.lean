import ChartQuery.Aggregation.Document
import ChartQuery.Catalog.Document
import ChartQuery.Config.Basic
import ChartQuery.Toml.Printer
import ChartQuery.Toml.Reader
import ChartQuery.Toml.Record

/-!
# Configuration documents

A configuration is written in TOML and shown in JSON.  Every section and nearly
every member may be left out.
-/

namespace ChartQuery

/-! ## Reading -/

/-- Read bounds. -/
def Bounds.ofToml? (value : Toml) : Option Bounds := do
  let fields ← Toml.record? Bounds.declared 2 value
  let min ← Toml.required? fields "min" Toml.asInt64?
  let max ← Toml.required? fields "max" Toml.asInt64?
  return ⟨min, max⟩

/-- The members of the compiler section in declared order. -/
def CompilerSettings.declared : List String :=
  ["default_terms_size", "default_time_zone", "extended_bounds", "query"]

/-- Read the compiler section. -/
def CompilerSettings.ofToml? (value : Toml) : Option CompilerSettings := do
  let fields ← Toml.record? declared 0 value
  let termsSize ← Toml.defaulted? fields "default_terms_size"
    standard.termsSize Toml.asUInt64?
  let timeZone ← Toml.defaulted? fields "default_time_zone"
    standard.timeZone Toml.asText?
  let bounds ← Toml.optional? fields "extended_bounds" Bounds.ofToml?
  let query ← Toml.optional? fields "query" (fun value => some value.toJson)
  return ⟨termsSize, timeZone, bounds, query⟩

/-- Read the catalog section: the path of the catalog. -/
def Config.catalogPathOfToml? (value : Toml) : Option (Option String) := do
  let fields ← Toml.record? ["path"] 1 value
  Toml.optional? fields "path" Toml.asText?

/-- Read the logging section. -/
def Logging.ofToml? (value : Toml) : Option Logging := do
  let fields ← Toml.record? ["level", "file"] 2 value
  let level ←
    Toml.defaulted? fields "level" Config.standard.logging.level Toml.asText?
  let file ← Toml.optional? fields "file" Toml.asText?
  return ⟨level, file⟩

/-- Read the observability section: the format of log lines. -/
def Config.logFormatOfToml? (value : Toml) : Option String := do
  let fields ← Toml.record? ["log_format"] 0 value
  Toml.defaulted? fields "log_format" standard.logFormat Toml.asText?

namespace Config

/-- Read a configuration; paths stay as they are written. -/
def ofToml? (members : Keyed String Toml) : Option Config := do
  let catalogPath ← Toml.defaulted? members "catalog"
    standard.catalogPath catalogPathOfToml?
  let compiler ← Toml.defaulted? members "compiler"
    standard.compiler CompilerSettings.ofToml?
  let logging ← Toml.defaulted? members "logging"
    standard.logging Logging.ofToml?
  let logFormat ← Toml.defaulted? members "observability"
    standard.logFormat logFormatOfToml?
  return ⟨catalogPath, compiler, logging, logFormat⟩

/-- Read a configuration from its text and expand its paths. -/
def read (home text : String) : Except Failure Config :=
  match (Toml.read? text).bind ofToml? with
  | some config => .ok (config.expandPaths home)
  | none => .error .configuration

/-! ## Writing -/

/-- A member that is left out when it has no value. -/
def textMember (name : String) : Option String → List (String × Toml)
  | some text => [(name, .string text)]
  | none => []

/-- Write bounds. -/
def boundsToToml (bounds : Bounds) : Toml :=
  .table [("min", .integer bounds.min), ("max", .integer bounds.max)]

/-- Write the compiler section; a query with a `null` in it has no TOML form. -/
def compilerToToml? (settings : CompilerSettings) : Option Toml := do
  let termsSize ← Toml.ofJson? (.ofUInt64 settings.termsSize)
  let query ← (match settings.query with
    | some query => (Toml.ofJson? query).map (fun value => [("query", value)])
    | none => some [] : Option (List (String × Toml)))
  return .table
    ([("default_terms_size", termsSize),
      ("default_time_zone", .string settings.timeZone)] ++
      (match settings.bounds with
        | some bounds => [("extended_bounds", boundsToToml bounds)]
        | none => []) ++
      query)

/-- Write a configuration. -/
def toToml? (config : Config) : Option (Keyed String Toml) := do
  let compiler ← compilerToToml? config.compiler
  some
    [("catalog", .table (textMember "path" config.catalogPath)),
     ("compiler", compiler),
     ("logging", .table
       (("level", .string config.logging.level) ::
         textMember "file" config.logging.file)),
     ("observability", .table [("log_format", .string config.logFormat)])]

/-- The text that a configuration is saved as. -/
def save (config : Config) : Except Failure String :=
  match config.toToml? with
  | some members => .ok (Toml.documentText members)
  | none => .error .configuration

/-- Show a configuration with all its members. -/
def toJson (config : Config) : Json :=
  .object
    [("catalog", .object [("path", .ofText? config.catalogPath)]),
     ("compiler", .object
       [("default_terms_size", .ofUInt64 config.compiler.termsSize),
        ("default_time_zone", .string config.compiler.timeZone),
        ("extended_bounds",
          (config.compiler.bounds.map Bounds.toJson).getD .null),
        ("query", config.compiler.query.getD .null)]),
     ("logging", .object
       [("level", .string config.logging.level),
        ("file", .ofText? config.logging.file)]),
     ("observability", .object [("log_format", .string config.logFormat)])]

end Config

end ChartQuery
