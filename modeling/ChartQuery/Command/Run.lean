import ChartQuery.Command.Listing
import ChartQuery.Command.Log
import ChartQuery.Compilation.Basic
import ChartQuery.Config.Document
import ChartQuery.Chart.Document
import ChartQuery.Decoding.Basic
import ChartQuery.Validation.Basic

/-!
# Running a call

A call loads its configuration and its catalog and then does its task.  What it
reads comes through `FileAccess`, so a run is a function of the files.  The
outcome is an exit code and what is printed: code 0 when all is well, 1 when
something is wrong with the files or the chart, 2 when the arguments are.
-/

namespace ChartQuery.Command

/-- How files are reached. -/
structure FileAccess (m : Type → Type) where
  /-- Whether something is at the path. -/
  exists? : String → m Bool
  /-- The text of a file, if it can be read. -/
  read? : String → m (Option String)
  /-- Append a text to a file, which is made if it is missing; whether it worked. -/
  append : String → String → m Bool

/-- An exit code and the printed text. -/
structure Outcome where
  code : Nat
  output : String
deriving DecidableEq

namespace Outcome

/-- All went well. -/
def success (output : String) : Outcome := ⟨0, output⟩

/-- Something failed before anything could be said about a chart. -/
def failed : Outcome := ⟨1, ""⟩

/-- A document is printed with a line end behind it. -/
def document (value : Json) : Outcome := success (value.indented ++ "\n")

/-- A chart or a response is rejected. -/
def rejected (failure : Failure) : Outcome := ⟨1, failure.body.indented ++ "\n"⟩

/-- The outcome when no task is to be done. -/
def ofStop : Stop → Outcome
  | .usage => ⟨2, ""⟩
  | .help => success ""
  | .version => success "dashagg 0.1.0\n"

end Outcome

section

variable {m : Type → Type} [Monad m] (files : FileAccess m) (home : String)

/-- Load a configuration; without a file the standard one is used. -/
def loadConfig (path : String) : m (Except Failure Config) := do
  let path := expandTilde home path
  if ← files.exists? path then
    match ← files.read? path with
    | some text => return Config.read home text
    | none => return .error .configuration
  else return .ok .standard

/-- Load the catalog of a configuration. -/
def loadCatalog (config : Config) : m (Except Failure Catalog) := do
  match config.catalogPath with
  | none => return Catalog.load none
  | some path =>
      match ← files.read? path with
      | some text => return Catalog.load (some text)
      | none => return .error .catalogFile

/-- Read a document from a file that may be left out; `none` when it cannot be. -/
def readOptional {α : Type} (read : String → Option α) :
    Option String → m (Option (Option α))
  | none => return some none
  | some path => do return ((← files.read? path).bind read).map some

/-- Read a document from a file. -/
def readRequired {α : Type} (read : String → Option α) (path : String) :
    m (Option α) := do
  return (← files.read? path).bind read

end

/-- Check a chart that was read from a text. -/
def checkChart (catalog : Catalog) (text : String) : Except Failure Chart :=
  match Chart.read? text with
  | none => .error .document
  | some chart => do
      (catalog.validate chart).mapError .validation
      return chart

/-- Check and compile a chart that was read from a text. -/
def compileChart (catalog : Catalog) (settings : CompilerSettings)
    (options : CompileOptions) (text : String) : Except Failure CompiledChart := do
  let chart ← checkChart catalog text
  (catalog.compile settings options chart).mapError .compilation

/-- The outcome of a check. -/
def validateOutcome (catalog : Catalog) (text : String) : Outcome :=
  match checkChart catalog text with
  | .ok _ => .success "valid\n"
  | .error failure => .rejected failure

/-- The outcome of a compilation. -/
def compileOutcome (catalog : Catalog) (settings : CompilerSettings)
    (options : CompileOptions) (text : String) : Outcome :=
  match compileChart catalog settings options text with
  | .ok compiled => .document compiled.toJson
  | .error failure => .rejected failure

/-- The outcome of a decoding. -/
def decodeOutcome (overrides : Overrides) (slots : Slots) (response : Json) :
    Outcome :=
  match decode overrides slots response with
  | .ok rows => .document (rowsToJson rows)
  | .error error => .rejected (.decoding error)

section

variable {m : Type → Type} [Monad m] (files : FileAccess m) (home : String)

/-- Do a task with a configuration and a catalog. -/
def perform (config : Config) (catalog : Catalog) : Task → m Outcome
  | .validate chart => do
      match ← files.read? chart with
      | some text => return validateOutcome catalog text
      | none => return .failed
  | .compile chart bounds query => do
      match ← readOptional files Json.read? query with
      | none => return .failed
      | some query =>
          match ← files.read? chart with
          | some text =>
              return compileOutcome catalog config.compiler ⟨bounds, query⟩ text
          | none => return .failed
  | .decode names => do
      let response ← readRequired files Json.read? names.result
      let slots ← readRequired files Slots.read? names.mapping
      let titles ← readOptional files TitleOverrides.read? names.titles
      let values ← readOptional files ValueOverrides.read? names.values
      match response, slots, titles, values with
      | some response, some slots, some titles, some values =>
          return decodeOutcome ⟨titles.getD [], values.getD []⟩ slots response
      | _, _, _, _ => return .failed
  | .catalog listings =>
      return .success (String.join (listings.map (Listing.text catalog)))

/-- Write an event to the log file, if there is one and the level asks for it. -/
def logEvent (config : Config) (event : LogEvent) : m Unit := do
  match config.logging.file with
  | some path =>
      if event.isLogged config.logging.level then
        let _ ← files.append path (event.line config.logFormat)
  | none => return

/-- Run a call.  The log file is made before anything else is read. -/
def Call.run (call : Call) : m Outcome := do
  match ← loadConfig files home (call.config.getD (defaultConfigPath home)) with
  | .error _ => return .failed
  | .ok config =>
      let config := match call.catalog with
        | some path => { config with catalogPath := some (expandTilde home path) }
        | none => config
      let logs ← (match config.logging.file with
        | some path => files.append path ""
        | none => pure true)
      if !logs then return .failed
      else
        match ← loadCatalog files config with
        | .error _ => return .failed
        | .ok catalog =>
            if config.catalogPath.isSome then logEvent files config .catalogLoaded
            logEvent files config .catalogReady
            perform files config catalog call.task

/-- Run the arguments of a call. -/
def run (arguments : List String) : m Outcome :=
  match Call.ofArguments arguments with
  | .ok call => call.run files home
  | .error stop => return .ofStop stop

end

end ChartQuery.Command
