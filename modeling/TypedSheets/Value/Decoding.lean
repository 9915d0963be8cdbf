import TypedSheets.Json.Decoder
import TypedSheets.Json.Reader
import TypedSheets.Value.Basic

/-!
# Values and records from JSON

A value is an object of a tag and a content, a record an object of its fields; the list
of the parts may stand in place of an object. A content that comes before its tag is
set aside until the tag is known. For that all parts of it have to denote something,
and some things in it may be written in a second way.
-/

namespace TypedSheets

namespace Value

/-- Whether a value is read where it stands or belongs to what was set aside. -/
inductive Placement where
  | inPlace
  | aside
deriving DecidableEq

/-- The tags in their order. -/
def tags : List String := [
  "null", "bool", "int", "float", "str", "enum", "vector", "array", "reference", "record"]

/-- The tag in an object. In what was set aside, nothing may also be written as an empty
object. -/
def tag? : Placement → Json → Option String
  | .aside, .object [(name, .object [])] => some name
  | _, json => json.asChoice?

/-- The tag at the head of a list. In what was set aside, it may also be written as its
place among the tags. -/
def headTag? : Placement → Json → Option String
  | .aside, .number (.integer place) => if 0 ≤ place then tags[place.toNat]? else none
  | _, json => json.asString?

/-- A value taken apart: its tag, its content if it has any, and where that belongs. -/
structure Tagged where
  tag : String
  content : Option Json
  placement : Placement

/-- Whether the content comes before the tag in the entries of an object. -/
def isContentFirst (entries : List (String × Json)) : Bool :=
  (entries.find? fun entry => entry.1 == "type" || entry.1 == "value").any (·.1 == "value")

/-- Take a value apart. -/
def tagged? (placement : Placement) : Json → Option Tagged
  | .object entries => do
      let field ← (Json.object entries).namedFields? ["type", "value"]
      let tag ← (field "type").bind (tag? placement)
      let content := field "value"
      if isContentFirst entries then
        if content.all Json.isReadable then some ⟨tag, content, .aside⟩ else none
      else some ⟨tag, content, placement⟩
  | .array [head, content] =>
      (headTag? placement head).map fun tag => ⟨tag, some content, placement⟩
  | _ => none

end Value

/-- A name with a value. -/
def Record.fieldOfJson? (value? : Json → Option Value) : Json → Option (String × Value)
  | .array [.string name, value] => (value? value).map fun value => (name, value)
  | _ => none

/-- The record that JSON denotes, given the reading of values. -/
def Record.ofJsonBy? (value? : Json → Option Value) (json : Json) : Option Record := do
  let field ← json.fields? ["type_name", "asset_name", "row", "fields"]
  let typeName ← Json.required? Json.asString? (field "type_name")
  let assetName ← Json.orDefault? none (Json.asOptional? Json.asString?) (field "asset_name")
  let row ← Json.orDefault? none (Json.asOptional? Json.asNat?) (field "row")
  let fields ← Json.required? (Json.asList? (Record.fieldOfJson? value?)) (field "fields")
  some { typeName, assetName, row, fields }

namespace Value

/-- An enumeration value of its parts, which are not taken from a list. -/
def enumOfJson? (json : Json) : Option Value := do
  let field ← json.namedFields? ["type_name", "value"]
  let typeName ← Json.required? Json.asString? (field "type_name")
  let value ← Json.required? Json.asWord? (field "value")
  some (.enum typeName value)

/-- A reference of its parts, which are not taken from a list. -/
def referenceOfJson? (json : Json) : Option Value := do
  let field ← json.namedFields? ["type_name", "key"]
  let typeName ← Json.required? Json.asString? (field "type_name")
  let key ← Json.required? Json.asString? (field "key")
  some (.reference typeName key)

/-- The value that JSON denotes, values being nested at most `levels` deep. -/
def ofJsonWithin? : Nat → Placement → Json → Option Value
  | 0, _, _ => none
  | levels + 1, placement, json => do
      let ⟨tag, content, placement⟩ ← tagged? placement json
      match tag, content with
      | "null", none => some .null
      | "null", some content => if content matches .null then some .null else none
      | "bool", some content => content.asBool?.map .bool
      | "int", some content => content.asWord?.map .int
      | "float", some content => content.asDouble?.map .float
      | "str", some content => content.asString?.map .text
      | "enum", some content => enumOfJson? content
      | "vector", some content => (content.asList? Json.asDouble?).map .vector
      | "array", some content => (content.asList? (ofJsonWithin? levels placement)).map .array
      | "reference", some content => referenceOfJson? content
      | "record", some content =>
          (Record.ofJsonBy? (ofJsonWithin? levels placement) content).map .record
      | _, _ => none

/-- The value that JSON denotes. No JSON text nests deeper than the bound taken
here. -/
def ofJson? (json : Json) : Option Value :=
  ofJsonWithin? (Json.depthLimit + 1) .inPlace json

/-- The value that a JSON text denotes. -/
def parse? (text : String) : Option Value :=
  (Json.parse? text).bind ofJson?

end Value

/-- The record that JSON denotes. -/
def Record.ofJson? (json : Json) : Option Record :=
  Record.ofJsonBy? Value.ofJson? json

end TypedSheets
