import TypedSheets.Schema
import TypedSheets.Settings.Basic

/-!
# Table shapes

Which shape a table takes: by a single key, searched by its keys, or a plain list. A
dictionary has to have exactly one key and the sheet has to have its column.
-/

namespace TypedSheets

/-- The shape of a table. -/
inductive TableStrategy where
  | dictionary
  | searchableList
  | plainList
deriving DecidableEq

/-- Why a dictionary cannot be made. -/
inductive SynthesisError where
  | missingKey (table : String)
  | tooManyKeys (table : String) (count : Nat)
deriving DecidableEq

/-- The text of an error. -/
def SynthesisError.message : SynthesisError → String
  | .missingKey table =>
      "Dictionary table '" ++ table ++ "' needs exactly one key field present in the sheet"
  | .tooManyKeys table count =>
      "Dictionary table '" ++ table ++ "' needs exactly one key field, got " ++ Nat.repr count

namespace TableStrategy

/-- The name of a shape. -/
def name : TableStrategy → String
  | .dictionary => "dictionary"
  | .searchableList => "searchable_list"
  | .plainList => "plain_list"

/-- The shape of the table of a setting, given the fields of its keys. -/
def select (setting : Setting) (keys : List FieldSchema) : Except SynthesisError TableStrategy :=
  match setting.tableKind with
  | .dictionary =>
      match keys with
      | [] => .error (.missingKey setting.tableClass)
      | [key] => if key.isValid then .ok .dictionary else .error (.missingKey setting.tableClass)
      | keys => .error (.tooManyKeys setting.tableClass keys.length)
  | .list =>
      if keys ≠ [] ∧ keys.all (·.isValid) then .ok .searchableList else .ok .plainList

end TableStrategy

end TypedSheets
