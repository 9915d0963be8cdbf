import TypedSheets.Value.Decoding
import TypedSheets.Value.Encoding

/-!
# Assets

A stored record, or all records of a stored table, with the name it is stored under
and the time of storing.
-/

namespace TypedSheets

/-- What an asset holds. -/
inductive AssetKind where
  | record
  | table
deriving DecidableEq

namespace AssetKind

/-- The name of a kind. -/
def name : AssetKind → String
  | .record => "record"
  | .table => "table"

/-- The name of a kind in listings. -/
def label : AssetKind → String
  | .record => "Record"
  | .table => "Table"

/-- The kind that JSON names. -/
def ofJson? (json : Json) : Option AssetKind :=
  json.asChoice?.bind fun name => [AssetKind.record, .table].find? (·.name == name)

end AssetKind

/-- A stored record or table. -/
structure Asset where
  name : String
  kind : AssetKind
  className : String
  savedAt : String
  records : List Record

namespace Asset

/-- The JSON of an asset. -/
def toJson (asset : Asset) : Json :=
  .object [
    ("name", .string asset.name),
    ("kind", .string asset.kind.name),
    ("class_name", .string asset.className),
    ("saved_at", .string asset.savedAt),
    ("records", .array (asset.records.map Record.toJson))]

/-- The asset that JSON denotes. -/
def ofJson? (json : Json) : Option Asset := do
  let field ← json.fields? ["name", "kind", "class_name", "saved_at", "records"]
  let name ← Json.required? Json.asString? (field "name")
  let kind ← Json.required? AssetKind.ofJson? (field "kind")
  let className ← Json.required? Json.asString? (field "class_name")
  let savedAt ← Json.required? Json.asString? (field "saved_at")
  let records ← Json.required? (Json.asList? Record.ofJson?) (field "records")
  some { name, kind, className, savedAt, records }

/-- The text of an asset. -/
def write (asset : Asset) : String := asset.toJson.pretty

/-- The asset that a text denotes. -/
def read? (text : String) : Option Asset := (Json.parse? text).bind ofJson?

end Asset

end TypedSheets
