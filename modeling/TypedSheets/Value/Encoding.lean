import TypedSheets.Json.Writer
import TypedSheets.Value.Basic

/-!
# Values and records as JSON

A value is an object of a tag and a content, a record an object of its fields as a
list of pairs; what is absent is left out.
-/

namespace TypedSheets

/-- A value with its tag. -/
def Json.tagged (tag : String) (content : Json) : Json :=
  .object [("type", .string tag), ("value", content)]

mutual

/-- The JSON of a value. -/
def Value.toJson : Value → Json
  | .null => .object [("type", .string "null")]
  | .bool value => Json.tagged "bool" (.bool value)
  | .int value => Json.tagged "int" (.number (.integer value.toInt))
  | .float value => Json.tagged "float" (.number (.real value))
  | .text value => Json.tagged "str" (.string value)
  | .enum typeName value =>
      Json.tagged "enum"
        (.object [("type_name", .string typeName), ("value", .number (.integer value.toInt))])
  | .vector components =>
      Json.tagged "vector" (.array (components.map fun component => .number (.real component)))
  | .array items => Json.tagged "array" (.array (Value.itemsToJson items))
  | .reference typeName key =>
      Json.tagged "reference" (.object [("type_name", .string typeName), ("key", .string key)])
  | .record record => Json.tagged "record" record.toJson

/-- The JSON of each value of a list. -/
def Value.itemsToJson : List Value → List Json
  | [] => []
  | item :: items => item.toJson :: Value.itemsToJson items

/-- The JSON of a record. -/
def Record.toJson : Record → Json
  | ⟨typeName, assetName, row, fields⟩ =>
      .object <|
        ("type_name", .string typeName)
          :: (assetName.toList.map fun name => ("asset_name", .string name))
          ++ (row.toList.map fun row => ("row", .number (.integer row)))
          ++ [("fields", .array (Record.fieldsToJson fields))]

/-- The JSON of each field of a record. -/
def Record.fieldsToJson : List (String × Value) → List Json
  | [] => []
  | (name, value) :: fields => .array [.string name, value.toJson] :: Record.fieldsToJson fields

end

end TypedSheets
