import ChartQuery.Catalog.Builtin
import ChartQuery.Failure
import ChartQuery.Yaml.Reader
import ChartQuery.Yaml.Record

/-!
# Catalog documents

Catalogs are written in YAML and shown in JSON.  Reading says whether a text
has the form of a catalog; whether the catalog is consistent is the question of
its resolution.
-/

namespace ChartQuery

/-! ## Reading -/

/-- Options with their allowed values; nothing written means any value. -/
def OptionSchema.ofYaml : Yaml → Yaml.Typed OptionSchema :=
  Yaml.table (Yaml.optional (Yaml.list Yaml.text))

/-- Read an index. -/
def IndexMapping.ofYaml (node : Yaml) : Yaml.Typed IndexMapping := do
  let fields ← Yaml.record ["mappingFile", "fields"] node
  let mappingFile ←
    Yaml.defaulted fields "mappingFile" none (Yaml.optional Yaml.text)
  let types ← Yaml.defaulted fields "fields" [] (Yaml.table Yaml.text)
  return ⟨mappingFile, types⟩

/-- Read a data view. -/
def DataView.ofYaml (node : Yaml) : Yaml.Typed DataView := do
  let fields ← Yaml.record ["mappedIndex"] node
  let mappedIndex ←
    Yaml.defaulted fields "mappedIndex" none (Yaml.optional Yaml.text)
  return ⟨mappedIndex⟩

/-- Read a frequency. -/
def Frequency.ofYaml : Yaml → Yaml.Typed Frequency :=
  Yaml.named Frequency.ofName?

/-- Read a module type. -/
def ModuleSpec.ofYaml (node : Yaml) : Yaml.Typed ModuleSpec := do
  let fields ← Yaml.record
    ["graphType", "mainAxisFrequency", "valueAxisFrequency", "colorAxis"] node
  let graphType ← Yaml.defaulted fields "graphType" "" Yaml.text
  let main ← Yaml.required fields "mainAxisFrequency" Frequency.ofYaml
  let value ← Yaml.required fields "valueAxisFrequency" Frequency.ofYaml
  let colorAxis ←
    Yaml.defaulted fields "colorAxis" none (Yaml.optional Yaml.text)
  return ⟨graphType, main, value, colorAxis⟩

/-- Read the options of a function. -/
def FunctionOptions.ofYaml (node : Yaml) : Yaml.Typed FunctionOptions := do
  let fields ← Yaml.record ["required", "optional"] node
  let required ← Yaml.defaulted fields "required" [] OptionSchema.ofYaml
  let optional ← Yaml.defaulted fields "optional" [] OptionSchema.ofYaml
  return ⟨required, optional⟩

/-- Read a function. -/
def FunctionSpec.ofYaml (node : Yaml) : Yaml.Typed FunctionSpec := do
  let fields ← Yaml.record
    ["name", "description", "axis", "validDataTypes", "options"] node
  let name ← Yaml.required fields "name" Yaml.text
  let description ← Yaml.defaulted fields "description" "" Yaml.text
  let axis ← Yaml.required fields "axis" (Yaml.named Axis.ofRole?)
  let types ← Yaml.defaulted fields "validDataTypes" [] (Yaml.list Yaml.text)
  let options ←
    Yaml.defaulted fields "options" none (Yaml.optional FunctionOptions.ofYaml)
  return ⟨name, description, axis, types, options⟩

namespace CatalogFile

/-- The members of a catalog. -/
def declared : List String :=
  ["option_keys", "indices", "data_views", "module_types", "functions"]

/-- Read a catalog. -/
def ofYaml (node : Yaml) : Yaml.Typed CatalogFile := do
  let fields ← Yaml.record declared node
  let optionKeys ← Yaml.defaulted fields "option_keys" standardOptionKeys
    (Yaml.list Yaml.text)
  let indices ←
    Yaml.defaulted fields "indices" [] (Yaml.table IndexMapping.ofYaml)
  let dataViews ←
    Yaml.defaulted fields "data_views" [] (Yaml.table DataView.ofYaml)
  let moduleTypes ←
    Yaml.defaulted fields "module_types" [] (Yaml.table ModuleSpec.ofYaml)
  let functions ←
    Yaml.defaulted fields "functions" [] (Yaml.table FunctionSpec.ofYaml)
  return ⟨optionKeys, indices, dataViews, moduleTypes, functions⟩

/-- Read a catalog from its text. -/
def read (text : String) : Except Failure CatalogFile :=
  match (Yaml.read? text).bind (Yaml.typed? · ofYaml) with
  | some file => .ok file
  | none => .error .catalogText

/-- The catalog of a text, or the built-in one. -/
def ofText : Option String → Except Failure CatalogFile
  | none => .ok builtin
  | some text => read text

end CatalogFile

/-- Load the catalog of a text, or the built-in one. -/
def Catalog.load (text : Option String) : Except Failure Catalog := do
  let file ← CatalogFile.ofText text
  file.resolve.mapError .catalog

/-! ## Writing -/

/-- A string, or `null` for none. -/
def Json.ofText? : Option String → Json
  | some text => .string text
  | none => .null

/-- Write options with their allowed values. -/
def OptionSchema.toJson (schema : OptionSchema) : Json :=
  .object (schema.map (fun (key, allowed) =>
    (key, match allowed with
      | some values => .ofStrings values
      | none => .null)))

/-- Write an index; the field types are left out when none is known. -/
def IndexMapping.toJson (index : IndexMapping) : Json :=
  .object
    (("mappingFile", .ofText? index.mappingFile) ::
      if index.fields.isEmpty then []
      else
        [("fields", .object (index.fields.map (fun (field, fieldType) =>
          (field, .string fieldType))))])

/-- Write a data view. -/
def DataView.toJson (view : DataView) : Json :=
  .object [("mappedIndex", .ofText? view.mappedIndex)]

/-- Write a module type. -/
def ModuleSpec.toJson (module : ModuleSpec) : Json :=
  .object
    ([("graphType", .string module.graphType),
      ("mainAxisFrequency", .string module.main.name),
      ("valueAxisFrequency", .string module.value.name)] ++
      match module.colorAxis with
      | some axis => [("colorAxis", .string axis)]
      | none => [])

/-- Write a function as it is written down. -/
def FunctionSpec.toJson (function : FunctionSpec) : Json :=
  .object
    [("name", .string function.name),
     ("description", .string function.description),
     ("axis", .string function.axis.role),
     ("validDataTypes", .ofStrings function.validDataTypes),
     ("options", match function.options with
       | some options => .object
           [("required", options.required.toJson),
            ("optional", options.optional.toJson)]
       | none => .null)]

/-- Write a resolved function. -/
def FunctionDescriptor.toJson (function : FunctionDescriptor) : Json :=
  .object
    [("id", .string function.id),
     ("name", .string function.name),
     ("description", .string function.description),
     ("axis", .string function.axis.role),
     ("handler", .ofText? (function.handler.map Handler.name)),
     ("required", function.required.toJson),
     ("optional", function.optional.toJson),
     ("types", .ofStrings function.validDataTypes)]

/-- Write a table. -/
def Json.ofTable {α : Type} (write : α → Json) (table : Keyed String α) : Json :=
  .object (table.map (fun (key, value) => (key, write value)))

/-- Write a catalog as it is written down. -/
def CatalogFile.toJson (file : CatalogFile) : Json :=
  .object
    [("option_keys", .ofStrings file.optionKeys),
     ("indices", .ofTable IndexMapping.toJson file.indices),
     ("data_views", .ofTable DataView.toJson file.dataViews),
     ("module_types", .ofTable ModuleSpec.toJson file.moduleTypes),
     ("functions", .ofTable FunctionSpec.toJson file.functions)]

end ChartQuery
