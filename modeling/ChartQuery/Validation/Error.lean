import ChartQuery.Catalog.Basic
import ChartQuery.Validation.Format

/-!
# Violations of the chart grammar

Every way in which a chart can break the grammar, with a stable code and a text.
All of them are the caller's to mend.
-/

namespace ChartQuery

/-- The first rule that a chart breaks. -/
inductive ValidationError where
  | dataViewNotFound (name : String)
  | mappedIndexMissing (name : String)
  | indexNotRegistered (index name : String)
  | mappingFileMissing (index : String)
  | invalidModuleType (name : String)
  | missingAxis (axis : Axis)
  | axisLength (axis : Axis) (frequency : Frequency) (actual : Nat)
  | invalidFunction (name : String)
  | functionAxisMismatch (function : String) (axis : Axis)
  | functionNotConfigured (function : String)
  | unknownOption (option : String)
  | missingRequiredOption (function option : String)
  | invalidOptionValue (function option value : String) (allowed : List String)
  | unmappedOption (function option : String)
  | invalidFormat (error : FormatError)
  | invalidFieldType (function field fieldType : String)
deriving DecidableEq

/-- The code of a badly formed option. -/
def FormatError.code (error : FormatError) : String :=
  if error.option = "timeZone" then "INVALID_TIMEZONE_FORMAT"
  else if error.option = "fixed_interval" then "INVALID_FIXED_INTERVAL"
  else if error.option = "size" then "INVALID_SIZE"
  else if error.option = "interval" then "INVALID_INTERVAL"
  else if error.option = "min_doc_count" then "INVALID_MIN_DOC_COUNT"
  else if error.option = "terms_size" then "INVALID_TERMS_SIZE"
  else if error.option = "missing" then "INVALID_OPTION_MISSING"
  else if error.option = "order" then "INVALID_ORDER"
  else "INVALID_OPTION_VALUE"

/-- The text of a badly formed option. -/
def FormatError.message (error : FormatError) : String :=
  "Invalid " ++ error.option ++ ": " ++ error.value ++ ". " ++
    error.format.expectation

namespace ValidationError

/-- The stable code of a violation. -/
def code : ValidationError → String
  | .dataViewNotFound _ => "DV_DATA_VIEW_NOT_FOUND"
  | .mappedIndexMissing _ => "DV_MAPPED_INDEX_NOT_FOUND"
  | .indexNotRegistered _ _ => "DV_ESINDEX_KEY_NOT_FOUND"
  | .mappingFileMissing _ => "DV_ESMAPPING_FILE_NOT_FOUND"
  | .invalidModuleType _ => "INVALID_MODULE_TYPE"
  | .missingAxis .main => "MISSING_OR_INVALID_MAIN_AXIS"
  | .missingAxis .value => "MISSING_OR_INVALID_VALUE_AXIS"
  | .axisLength .main _ _ => "INVALID_MAIN_AXIS_SIZE"
  | .axisLength .value _ _ => "INVALID_VALUE_AXIS_SIZE"
  | .invalidFunction _ => "INVALID_MODULE_FUNCTION"
  | .functionAxisMismatch _ _ => "INVALID_MODULE_FUNCTION_AXIS"
  | .functionNotConfigured _ => "MODULE_FUNCTION_CONFIG_MISSING"
  | .unknownOption _ => "UNKNOWN_OPTION"
  | .missingRequiredOption _ _ => "MISSING_REQUIRED_OPTION"
  | .invalidOptionValue _ _ _ _ => "INVALID_REQUIRED_OPTION_VALUE"
  | .unmappedOption _ _ => "UNMAPPED_OPTION_FUNCTION"
  | .invalidFormat error => error.code
  | .invalidFieldType _ _ _ => "INVALID_FIELD_TYPE"

/-- The text of a violation. -/
def message : ValidationError → String
  | .dataViewNotFound name => "Data view '" ++ name ++ "' does not exist."
  | .mappedIndexMissing name =>
      "Mapped index for data view '" ++ name ++ "' does not exist."
  | .indexNotRegistered index name =>
      "Index '" ++ index ++ "' for data view '" ++ name ++ "' is not registered."
  | .mappingFileMissing index =>
      "Mapping file for index '" ++ index ++ "' does not exist."
  | .invalidModuleType name => "Invalid module type: " ++ name ++ "."
  | .missingAxis axis =>
      "The '" ++ axis.name ++
        "' field is required, must be an array, and cannot be empty."
  | .axisLength axis frequency actual =>
      "The '" ++ axis.name ++ "' field " ++ frequency.expectation ++ ", got " ++
        actual.repr ++ "."
  | .invalidFunction name => "Invalid module function: " ++ name ++ "."
  | .functionAxisMismatch function axis =>
      "function '" ++ function ++ "' is not valid in '" ++ axis.name ++ "'"
  | .functionNotConfigured function =>
      "configuration of function '" ++ function ++
        "' is incomplete. Contact Admin"
  | .unknownOption option => "Invalid option found: '" ++ option ++ "'"
  | .missingRequiredOption _ option => option ++ " is required."
  | .invalidOptionValue function option value allowed =>
      "For function '" ++ function ++ "', invalid value for '" ++ option ++
        "': '" ++ value ++ "'. Allowed values: '" ++
        ", ".intercalate allowed ++ "'."
  | .unmappedOption function option =>
      "Options '" ++ option ++ "' is not mapped with Function '" ++ function ++ "'"
  | .invalidFormat error => error.message
  | .invalidFieldType function field fieldType =>
      "Field '" ++ field ++ "' has type '" ++ fieldType ++ "' which function '" ++
        function ++ "' does not support"

end ValidationError

end ChartQuery
