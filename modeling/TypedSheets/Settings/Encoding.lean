import TypedSheets.Files.Path
import TypedSheets.Json.Decoder
import TypedSheets.Json.Reader
import TypedSheets.Json.Writer
import TypedSheets.Settings.Basic

/-!
# Configurations as JSON

Writing names every field, absent ones as `null`. Reading takes a default for every
field that has one and is missing, leaves out what it does not know, and accepts the
list of the fields in place of an object.
-/

namespace TypedSheets

open Json (required? orDefault? asString? asBool? asWord? asList? asOptional?)

/-- The JSON of an optional text. -/
def Json.ofOptionalText : Option String → Json
  | none => .null
  | some text => .string text

namespace OutputKind

/-- The name of an output. -/
def name : OutputKind → String
  | .enum => "enum"
  | .recordClass => "class"
  | .table => "table"

/-- The output that JSON names. -/
def ofJson? (json : Json) : Option OutputKind :=
  json.asChoice?.bind fun name => [OutputKind.enum, .recordClass, .table].find? (·.name == name)

end OutputKind

namespace TableKind

/-- The name of a table shape. -/
def name : TableKind → String
  | .dictionary => "dictionary"
  | .list => "list"

/-- The table shape that JSON names. -/
def ofJson? (json : Json) : Option TableKind :=
  json.asChoice?.bind fun name => [TableKind.dictionary, .list].find? (·.name == name)

end TableKind

namespace EnumMember

/-- The JSON of a member. -/
def toJson (member : EnumMember) : Json :=
  .object [
    ("name", .string member.name),
    ("value", match member.value with
      | some value => .number (.integer value.toInt)
      | none => .null)]

/-- The member that JSON denotes. -/
def ofJson? (json : Json) : Option EnumMember := do
  let field ← json.fields? ["name", "value"]
  let name ← required? asString? (field "name")
  let value ← orDefault? none (asOptional? asWord?) (field "value")
  some { name, value }

end EnumMember

namespace EnumDef

/-- The JSON of an enumeration. -/
def toJson (definition : EnumDef) : Json :=
  .object [
    ("name", .string definition.name),
    ("flags", .bool definition.flags),
    ("members", .array (definition.members.map EnumMember.toJson))]

/-- The enumeration that JSON denotes. -/
def ofJson? (json : Json) : Option EnumDef := do
  let field ← json.fields? ["name", "flags", "members"]
  let name ← required? asString? (field "name")
  let flags ← orDefault? false asBool? (field "flags")
  let members ← required? (asList? EnumMember.ofJson?) (field "members")
  some { name, flags, members }

end EnumDef

namespace JoinSetting

/-- The JSON of a join. -/
def toJson (join : JoinSetting) : Json :=
  .object [
    ("target_table", .string join.targetTable),
    ("target_key_field", .string join.targetKeyField),
    ("local_key_field", .string join.localKeyField),
    ("target_list_field", .string join.targetListField),
    ("target_find_method", .string join.targetFinder)]

/-- The join that JSON denotes. -/
def ofJson? (json : Json) : Option JoinSetting := do
  let field ← json.fields? ["target_table", "target_key_field", "local_key_field",
    "target_list_field", "target_find_method"]
  let targetTable ← required? asString? (field "target_table")
  let targetKeyField ← required? asString? (field "target_key_field")
  let localKeyField ← required? asString? (field "local_key_field")
  let targetListField ← required? asString? (field "target_list_field")
  let targetFinder ← orDefault? "Find" asString? (field "target_find_method")
  some { targetTable, targetKeyField, localKeyField, targetListField, targetFinder }

end JoinSetting

namespace SourceSpec

/-- The name of a kind of source. -/
def kindName : SourceSpec → String
  | .file _ => "file"
  | .values _ => "values"

/-- The source of a kind. -/
def ofKind? (kind path : String) : Option SourceSpec :=
  if kind = "file" then some (.file path)
  else if kind = "values" then some (.values path)
  else none

/-- The JSON of a source. -/
def toJson (source : SourceSpec) : Json :=
  .object [("kind", .string source.kindName), ("path", .string source.path)]

/-- The source that JSON denotes. Which fields are asked for depends on the kind, which
may come last, so all of them have to denote something. -/
def ofJson? (json : Json) : Option SourceSpec := do
  if !json.isReadable then none
  let field ← json.fields? ["kind", "path"]
  let kind ← required? asString? (field "kind")
  let path ← required? asString? (field "path")
  ofKind? kind path

end SourceSpec

namespace Setting

/-- The JSON of a setting. -/
def toJson (setting : Setting) : Json :=
  .object [
    ("class_name", .string setting.className),
    ("output", .string setting.output.name),
    ("table_kind", .string setting.tableKind.name),
    ("key_fields", .string setting.keyFields),
    ("join", match setting.join with
      | some join => join.toJson
      | none => .null),
    ("table_only", .bool setting.tableOnly),
    ("table_class_name", Json.ofOptionalText setting.tableClassName),
    ("table_asset_name", Json.ofOptionalText setting.tableAssetName),
    ("temp_path", Json.ofOptionalText setting.tempPath),
    ("source", match setting.source with
      | some source => source.toJson
      | none => .null),
    ("enum_flags", .bool setting.enumFlags)]

/-- The names of the fields of a setting. -/
def fieldNames : List String := [
  "class_name", "output", "table_kind", "key_fields", "join", "table_only", "table_class_name",
  "table_asset_name", "temp_path", "source", "enum_flags"]

/-- The setting that JSON denotes. -/
def ofJson? (json : Json) : Option Setting := do
  let field ← json.fields? fieldNames
  let className ← required? asString? (field "class_name")
  let output ← orDefault? .recordClass OutputKind.ofJson? (field "output")
  let tableKind ← orDefault? .list TableKind.ofJson? (field "table_kind")
  let keyFields ← orDefault? "" asString? (field "key_fields")
  let join ← orDefault? none (asOptional? JoinSetting.ofJson?) (field "join")
  let tableOnly ← orDefault? false asBool? (field "table_only")
  let tableClassName ← orDefault? none (asOptional? asString?) (field "table_class_name")
  let tableAssetName ← orDefault? none (asOptional? asString?) (field "table_asset_name")
  let tempPath ← orDefault? none (asOptional? asString?) (field "temp_path")
  let source ← orDefault? none (asOptional? SourceSpec.ofJson?) (field "source")
  let enumFlags ← orDefault? false asBool? (field "enum_flags")
  some {
    className, output, tableKind, keyFields, join, tableOnly, tableClassName, tableAssetName,
    tempPath, source, enumFlags }

end Setting

namespace Config

/-- The JSON of a configuration. -/
def toJson (config : Config) : Json :=
  .object [
    ("settings", .array (config.settings.map Setting.toJson)),
    ("temp_path", .string config.tempPath),
    ("template_dir", Json.ofOptionalText config.templateDirectory),
    ("output_dir", .string config.outputDirectory),
    ("enums", .array (config.enums.map EnumDef.toJson)),
    ("reference_types", .array (config.referenceTypes.map Json.string))]

/-- The text of a configuration. -/
def write (config : Config) : String := config.toJson.pretty

/-- The names of the fields of a configuration. -/
def fieldNames : List String := [
  "settings", "temp_path", "template_dir", "output_dir", "enums", "reference_types"]

/-- The configuration that JSON denotes. -/
def ofJson? (json : Json) : Option Config := do
  let field ← json.fields? fieldNames
  let settings ← orDefault? [] (asList? Setting.ofJson?) (field "settings")
  let tempPath ← orDefault? defaultTempPath asString? (field "temp_path")
  let templateDirectory ← orDefault? none (asOptional? asString?) (field "template_dir")
  let outputDirectory ← orDefault? defaultOutputDirectory asString? (field "output_dir")
  let enums ← orDefault? [] (asList? EnumDef.ofJson?) (field "enums")
  let referenceTypes ← orDefault? [] (asList? asString?) (field "reference_types")
  some { settings, tempPath, templateDirectory, outputDirectory, enums, referenceTypes }

/-- The configuration that a text denotes. -/
def read (text : String) : Except ConfigError Config :=
  match (Json.parse? text).bind ofJson? with
  | some config => .ok config
  | none => .error .malformed

/-- A configuration whose relative source paths start from a directory. -/
def relativeTo (directory : String) (config : Config) : Config :=
  if directory = "" then config
  else
    { config with
      settings := config.settings.map fun setting =>
        { setting with source := setting.source.map (·.mapPath (Path.join directory)) } }

end Config

end TypedSheets
