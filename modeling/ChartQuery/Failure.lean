import ChartQuery.Catalog.Resolution
import ChartQuery.Compilation.Error
import ChartQuery.Decoding.Error
import ChartQuery.Validation.Error

/-!
# Failures

What can go wrong from a text to the rows.  Every failure has a stable code,
and most have the status that a service should answer with.  A failure of this
library's own rules also has a text, and a longer one that names the stage.
-/

namespace ChartQuery

/-- A failure of any stage. -/
inductive Failure where
  /-- A document is no JSON or does not have the right form. -/
  | document
  /-- A catalog is no YAML or does not have the right form. -/
  | catalogText
  /-- A catalog file cannot be read. -/
  | catalogFile
  /-- A configuration is no TOML, does not have the right form or cannot be read. -/
  | configuration
  | catalog (error : CatalogError)
  | validation (error : ValidationError)
  | compilation (error : CompileError)
  | decoding (error : DecodeError)
deriving DecidableEq

namespace Failure

/-- The stable code of a failure. -/
def code : Failure → String
  | .document => "PARSE_ERROR"
  | .catalogText => "CATALOG_CONFIG_ERROR"
  | .catalogFile => "IO_ERROR"
  | .configuration => "CONFIG_ERROR"
  | .catalog _ => "CATALOG_CONFIG_ERROR"
  | .validation error => error.code
  | .compilation error => error.code
  | .decoding error => error.code

/-- The status of a failure: 400 if the caller can mend it, else 500. -/
def status? : Failure → Option Nat
  | .document => some 400
  | .configuration => none
  | .validation _ => some 400
  | .compilation error => some (if error.isCallers then 400 else 500)
  | .catalogText => some 500
  | .catalogFile => some 500
  | .catalog _ => some 500
  | .decoding _ => some 500

/-- The text of a failure of this library's own rules. -/
def message? : Failure → Option String
  | .catalog error => some error.message
  | .validation error => some error.message
  | .compilation error => some error.message
  | .decoding error => some error.message
  | .document => none
  | .catalogText => none
  | .catalogFile => none
  | .configuration => none

/-- The name of the stage that failed. -/
def stage : Failure → String
  | .document => "JSON error"
  | .catalogText => "Config error"
  | .catalogFile => "IO error"
  | .configuration => "Config error"
  | .catalog _ => "Config error"
  | .validation _ => "Validation error"
  | .compilation _ => "Compile error"
  | .decoding _ => "Decode error"

/-- The text of a failure behind the name of its stage. -/
def display? (failure : Failure) : Option String :=
  failure.message?.map (fun message => failure.stage ++ ": " ++ message)

/-- What a caller is told: the code and the text. -/
def body (failure : Failure) : Json :=
  .object
    [("errorCode", .string failure.code),
     ("message", .string (failure.message?.getD failure.stage))]

end Failure

end ChartQuery
