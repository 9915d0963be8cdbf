import TypedSheets.Grid.View
import TypedSheets.Text.Class
import TypedSheets.Types.Registry
import TypedSheets.Value.Basic

/-!
# Schemas

What the first two rows of a sheet declare: a name and a type for each column. A name
that ends in an index between brackets belongs to an array, whose columns share the
name before the index; a name that begins with a number sign is a comment. A column
whose type disagrees with an earlier one of its name does not count.
-/

namespace TypedSheets

/-- What a column declares. -/
structure FieldSchema where
  /-- The name as written, without the space around it. -/
  name : String
  declaredType : String
  isArrayElement : Bool
  /-- The name without the index. -/
  baseName : String
  isValid : Bool
  /-- The column of the grid; none for a field that the sheet does not have. -/
  column : Option Nat
deriving DecidableEq

namespace FieldSchema

/-- The name before an index between brackets that ends a column name. -/
def beforeIndex? (name : List Char) : Option (List Char) :=
  match name.reverse with
  | ']' :: rest =>
      match rest.takeWhile Text.isDecimalDigit, rest.dropWhile Text.isDecimalDigit with
      | _ :: _, '[' :: base =>
          if base ≠ [] ∧ !base.contains '\n' then some base.reverse else none
      | _, _ => none
  | _ => none

/-- What a column of a given name and declared type declares. -/
def ofColumn (registry : Registry) (name declaredType : String) (column : Nat) : FieldSchema :=
  let name := Text.trim name
  let declaredType := Text.trim declaredType
  let index := beforeIndex? name.toList
  let baseName :=
    match index with
    | some base => String.ofList (Text.trimChars base)
    | none => name
  { name
    declaredType
    isArrayElement := index.isSome
    baseName
    isValid :=
      name != "" && baseName != "" && name.toList.head? != some '#'
        && (registry.resolve? declaredType).isSome
    column := some column }

/-- Whether two columns can make up one field. -/
def isCompatibleWith (registry : Registry) (field other : FieldSchema) : Bool :=
  if field.isArrayElement != other.isArrayElement then false
  else
    match registry.resolve? field.declaredType, registry.resolve? other.declaredType with
    | some type, some otherType => type == otherType
    | _, _ => field.declaredType == other.declaredType

/-- The type name that generated declarations give to a field. -/
def typeText (field : FieldSchema) : String :=
  if field.isArrayElement then field.declaredType ++ "[]" else field.declaredType

/-- The field of a key that the sheet does not have. -/
def missing (key : String) : FieldSchema :=
  { name := key
    declaredType := ""
    isArrayElement := false
    baseName := key
    isValid := false
    column := none }

end FieldSchema

/-- The columns of a sheet in their order. -/
abbrev Schema := List FieldSchema

namespace Schema

/-- The row of names. -/
def nameRow : Nat := 0

/-- The row of types. -/
def typeRow : Nat := 1

/-- The first row of data. -/
def firstDataRow : Nat := 2

/-- Mark a column as invalid that disagrees with an earlier one. -/
def reconcile (registry : Registry) (earlier : Schema) (field : FieldSchema) : FieldSchema :=
  let clashes :=
    earlier.any fun other =>
      other.isValid && other.baseName == field.baseName
        && !other.isCompatibleWith registry field
  if field.isValid && clashes then { field with isValid := false } else field

/-- The columns that a view declares, its rows of names and types being there. -/
def derive (registry : Registry) (view : View) : Schema :=
  if view.rowCount ≤ typeRow then []
  else
    (List.range view.columnCount).foldl
      (fun schema column =>
        schema ++ [reconcile registry schema
          (FieldSchema.ofColumn registry (view.cell nameRow column) (view.cell typeRow column) column)])
      []

/-- The valid columns. -/
def valid (schema : Schema) : Schema := schema.filter (·.isValid)

/-- The fields of which none has the name of one of `seen` or of an earlier one. -/
def firstOfName (seen : List String) : Schema → Schema
  | [] => []
  | field :: fields =>
      if seen.contains field.baseName then firstOfName seen fields
      else field :: firstOfName (field.baseName :: seen) fields

/-- The first valid column of each name. -/
def distinct (schema : Schema) : Schema := firstOfName [] schema.valid

/-- The first valid column of a name. -/
def find? (schema : Schema) (name : String) : Option FieldSchema :=
  List.find? (fun field : FieldSchema => field.isValid && field.baseName == name) schema

/-- The fields of keys, in their order. -/
def keyFields (schema : Schema) (keys : List String) : List FieldSchema :=
  keys.map fun key => (schema.find? key).getD (FieldSchema.missing key)

end Schema

namespace RecordType

/-- Add the field of a column unless there is one of its name or its type is
unknown. -/
def addColumn (registry : Registry) (fields : List FieldDescriptor) (column : FieldSchema) :
    List FieldDescriptor :=
  if fields.any fun field => field.name == column.baseName then fields
  else
    match registry.resolve? column.declaredType with
    | some declared => fields ++ [⟨column.baseName, ValueType.ofColumn column.isArrayElement declared⟩]
    | none => fields

/-- The record class that the valid columns of a schema make up: a field for each
name, the first column of the name deciding. -/
def ofSchema (registry : Registry) (name : String) (schema : Schema) (isPure : Bool) : RecordType :=
  ⟨name, isPure, schema.valid.foldl (addColumn registry) []⟩

end RecordType

end TypedSheets
