import TypedSheets.Numeral.Decimal
import TypedSheets.Types.ValueType

/-!
# Values and records

What a converted cell holds, and the record that a row of cells becomes. A record
names its fields in order; a field may hold further records, which joins put there.
-/

namespace TypedSheets

open Numeral

mutual

/-- The value of a field. -/
inductive Value where
  | null
  | bool (value : Bool)
  | int (value : Int64)
  | float (value : Double)
  | text (value : String)
  | enum (typeName : String) (value : Int64)
  | vector (components : List Double)
  | array (items : List Value)
  | reference (typeName : String) (key : String)
  | record (record : Record)

/-- A row of a sheet. -/
structure Record where
  typeName : String
  /-- The name under which the record is stored. -/
  assetName : Option String
  /-- The row of the grid that the record was read from. -/
  row : Option Nat
  fields : List (String × Value)

end

instance : Inhabited Value := ⟨.null⟩

instance : Inhabited Record := ⟨⟨"", none, none, []⟩⟩

namespace Value

/-- Whether a value is `null`. -/
def isNull : Value → Bool
  | .null => true
  | _ => false

theorem isNull_eq_false_iff {value : Value} : value.isNull = false ↔ value ≠ .null := by
  cases value <;> simp [isNull]

/-- The number of an integer or of an enumeration value. -/
def asWord? : Value → Option Int64
  | .int value => some value
  | .enum _ value => some value
  | _ => none

/-- The text of a text value. -/
def asText? : Value → Option String
  | .text value => some value
  | _ => none

/-- Numbers in keys have the fewest digits that read back and never an exponent. -/
def keyStyle : NumberStyle where
  tie := .up
  positional := fun _ => true
  wholeEnding := ""
  notANumber := "NaN"
  infinite := "inf"

mutual

/-- The text of a value in asset names and messages. -/
def keyText : Value → String
  | .null => ""
  | .bool value => if value then "true" else "false"
  | .int value => wordText value
  | .float value => keyStyle.write value
  | .text value => value
  | .enum _ value => wordText value
  | .vector components => "_".intercalate (components.map keyStyle.write)
  | .array items => "_".intercalate (keyTexts items)
  | .reference _ key => key
  | .record ⟨_, assetName, _, _⟩ => assetName.getD ""

/-- The key texts of a list of values. -/
def keyTexts : List Value → List String
  | [] => []
  | item :: items => item.keyText :: keyTexts items

end

/-- Component by component equality of vectors. -/
def sameVector : List Double → List Double → Bool
  | [], [] => true
  | left :: lefts, right :: rights => left.same right && sameVector lefts rights
  | _, _ => false

mutual

/-- Equality of values, numbers being compared as numbers. -/
def same : Value → Value → Bool
  | .null, .null => true
  | .bool left, .bool right => left == right
  | .int left, .int right => left == right
  | .float left, .float right => left.same right
  | .text left, .text right => left == right
  | .enum leftType left, .enum rightType right => leftType == rightType && left == right
  | .vector lefts, .vector rights => sameVector lefts rights
  | .array lefts, .array rights => sameItems lefts rights
  | .reference leftType left, .reference rightType right => leftType == rightType && left == right
  | .record left, .record right => sameRecord left right
  | _, _ => false

/-- Equality of lists of values. -/
def sameItems : List Value → List Value → Bool
  | [], [] => true
  | left :: lefts, right :: rights => left.same right && sameItems lefts rights
  | _, _ => false

/-- Equality of records. -/
def sameRecord : Record → Record → Bool
  | ⟨leftType, leftName, leftRow, leftFields⟩, ⟨rightType, rightName, rightRow, rightFields⟩ =>
      leftType == rightType && leftName == rightName && leftRow == rightRow
        && sameFields leftFields rightFields

/-- Equality of lists of fields. -/
def sameFields : List (String × Value) → List (String × Value) → Bool
  | [], [] => true
  | (leftName, left) :: lefts, (rightName, right) :: rights =>
      leftName == rightName && left.same right && sameFields lefts rights
  | _, _ => false

end

/-- Equality of keys: an enumeration value equals the integer of its number. -/
def keyEq : Value → Value → Bool
  | .enum _ left, .int right => left == right
  | .int left, .enum _ right => left == right
  | left, right => left.same right

end Value

namespace ValueType

/-- The value of a field before anything is assigned to it. -/
def zero : ValueType → Value
  | .bool => .bool false
  | .byte | .short | .int | .long => .int 0
  | .float | .double => .float Double.zero
  | .string | .reference _ | .record _ | .array _ => .null
  | .composite kind => .vector (List.replicate kind.arity Double.zero)
  | .enum name => .enum name 0

mutual

/-- Whether a field of a type may hold a value. -/
def accepts (type : ValueType) : Value → Bool
  | .null => true
  | .bool _ => type == .bool
  | .int _ => type.isInteger || type == .float || type == .double
  | .float _ => type == .float || type == .double
  | .text _ => type == .string
  | .enum typeName _ => type == .enum typeName
  | .vector components =>
      match type with
      | .composite kind => components.length == kind.arity
      | _ => false
  | .array items =>
      match type with
      | .array element => element.acceptsAll items
      | _ => false
  | .reference typeName _ => type == .reference typeName
  | .record ⟨typeName, _, _, _⟩ => type == .record typeName

/-- Whether a type accepts every value of a list. -/
def acceptsAll (type : ValueType) : List Value → Bool
  | [] => true
  | item :: items => type.accepts item && type.acceptsAll items

end

mutual

/-- A plain integer as a value of the enumeration that a type is, inside of arrays
too. -/
def rebox (type : ValueType) : Value → Value
  | .int value =>
      match type with
      | .enum name => .enum name value
      | _ => .int value
  | .array items =>
      match type with
      | .array element => .array (element.reboxAll items)
      | _ => .array items
  | other => other

/-- Rebox every value of a list. -/
def reboxAll (type : ValueType) : List Value → List Value
  | [] => []
  | item :: items => type.rebox item :: type.reboxAll items

end

@[simp] theorem accepts_null (type : ValueType) : type.accepts .null = true := rfl

/-- A field may hold the value it starts with. -/
@[simp] theorem accepts_zero (type : ValueType) : type.accepts type.zero = true := by
  cases type with
  | composite kind => cases kind <;> rfl
  | enum name => simp [zero, accepts]
  | _ => rfl

end ValueType

/-- The name and the type of a field. -/
structure FieldDescriptor where
  name : String
  type : ValueType
deriving DecidableEq

/-- The fields of a record class. -/
structure RecordType where
  name : String
  /-- Whether the records are plain data that is not stored on its own. -/
  isPure : Bool
  fields : List FieldDescriptor
deriving DecidableEq

namespace RecordType

/-- The descriptor of a field. -/
def field? (type : RecordType) (name : String) : Option FieldDescriptor :=
  type.fields.find? fun field => field.name == name

/-- The position of a field. -/
def fieldIndex? (type : RecordType) (name : String) : Option Nat :=
  type.fields.findIdx? fun field => field.name == name

theorem name_of_field? {type : RecordType} {name : String} {field : FieldDescriptor}
    (found : type.field? name = some field) : field.name = name := by
  unfold field? at found
  have named := List.find?_some found
  exact eq_of_beq named

/-- A record whose fields all hold the value they start with. -/
def instantiate (type : RecordType) : Record :=
  ⟨type.name, none, none, type.fields.map fun field => (field.name, field.type.zero)⟩

end RecordType

namespace Record

/-- The value of a field. -/
def get? (record : Record) (name : String) : Option Value :=
  record.fields.lookup name

/-- Whether a record has a field. -/
def has (record : Record) (name : String) : Bool :=
  record.fields.any fun field => field.1 == name

/-- Change the value of the first field of a name. -/
def updateFields (name : String) (change : Value → Value) :
    List (String × Value) → List (String × Value)
  | [] => []
  | (other, value) :: fields =>
      if other = name then (other, change value) :: fields
      else (other, value) :: updateFields name change fields

/-- Change the value of a field; a record without the field stays as it is. -/
def update (record : Record) (name : String) (change : Value → Value) : Record :=
  { record with fields := updateFields name change record.fields }

/-- Put a value into a field. -/
def set (record : Record) (name : String) (value : Value) : Record :=
  record.update name fun _ => value

/-- A value with one more item: an array grows, `null` counts as the empty array and
any other value as an array of itself. -/
def grown (item : Value) : Value → Value
  | .array items => .array (items ++ [item])
  | .null => .array [item]
  | single => .array [single, item]

/-- Let the value of a field grow by an item. -/
def append (record : Record) (name : String) (item : Value) : Record :=
  record.update name (grown item)

@[simp] theorem typeName_update (record : Record) (name : String) (change : Value → Value) :
    (record.update name change).typeName = record.typeName := rfl

/-- Changing a field keeps the names of all fields and their order. -/
@[simp] theorem map_fst_updateFields (name : String) (change : Value → Value)
    (fields : List (String × Value)) :
    (updateFields name change fields).map Prod.fst = fields.map Prod.fst := by
  induction fields with
  | nil => rfl
  | cons field fields ih =>
      obtain ⟨other, value⟩ := field
      simp only [updateFields]
      split <;> simp [ih]

@[simp] theorem has_update (record : Record) (name other : String) (change : Value → Value) :
    (record.update name change).has other = record.has other := by
  have names := map_fst_updateFields name change record.fields
  have reading : ∀ fields : List (String × Value),
      (fields.any fun field => field.1 == other) = (fields.map Prod.fst).any (· == other) := by
    intro fields
    simp [List.any_map, Function.comp_def]
  simp only [has, reading, update, names]

theorem lookup_updateFields (name other : String) (change : Value → Value)
    (fields : List (String × Value)) :
    (updateFields name change fields).lookup other
      = if other = name then (fields.lookup other).map change else fields.lookup other := by
  induction fields with
  | nil => simp [updateFields]
  | cons field fields ih =>
      obtain ⟨key, value⟩ := field
      simp only [updateFields]
      by_cases here : key = name
      · subst here
        by_cases same : other = key
        · subst same; simp
        · have differs := beq_eq_false_iff_ne.mpr same
          simp [List.lookup_cons, same, differs]
      · by_cases same : other = key
        · subst same; simp [here]
        · have differs := beq_eq_false_iff_ne.mpr same
          simp [List.lookup_cons, here, differs, ih]

/-- What a field holds after a field was changed. -/
theorem get?_update (record : Record) (name other : String) (change : Value → Value) :
    (record.update name change).get? other
      = if other = name then (record.get? other).map change else record.get? other :=
  lookup_updateFields name other change record.fields

end Record

end TypedSheets
