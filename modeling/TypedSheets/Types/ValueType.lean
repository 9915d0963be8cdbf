import TypedSheets.Numeral.Integer

/-!
# Value types

The types a column may declare: primitives, vectors of fixed size, enumerations,
references, record classes, and arrays of any of them. Each type has one name, which
is how generated declarations write it.
-/

namespace TypedSheets

/-- Vectors of a fixed number of components. -/
inductive CompositeKind where
  | vector2
  | vector3
  | vector4
  | vector2Int
  | vector3Int
  | color
  | rect
deriving DecidableEq

namespace CompositeKind

/-- Every kind. -/
def all : List CompositeKind :=
  [.vector2, .vector3, .vector4, .vector2Int, .vector3Int, .color, .rect]

/-- How many components there are. -/
def arity : CompositeKind → Nat
  | .vector2 | .vector2Int => 2
  | .vector3 | .vector3Int => 3
  | .vector4 | .color | .rect => 4

/-- Whether the components are whole numbers. -/
def isIntegral : CompositeKind → Bool
  | .vector2Int | .vector3Int => true
  | _ => false

/-- The name of a kind. -/
def name : CompositeKind → String
  | .vector2 => "Vector2"
  | .vector3 => "Vector3"
  | .vector4 => "Vector4"
  | .vector2Int => "Vector2Int"
  | .vector3Int => "Vector3Int"
  | .color => "Color"
  | .rect => "Rect"

/-- The kind of a name. -/
def ofName? (name : String) : Option CompositeKind :=
  all.find? fun kind => kind.name == name

@[simp] theorem ofName?_name (kind : CompositeKind) : ofName? kind.name = some kind := by
  cases kind <;> decide

end CompositeKind

/-- The type of a column. -/
inductive ValueType where
  | bool
  | byte
  | short
  | int
  | long
  | float
  | double
  | string
  | composite (kind : CompositeKind)
  /-- An enumeration, by its full name. -/
  | enum (name : String)
  /-- A type outside of the library whose values are named by a key. -/
  | reference (name : String)
  /-- A record class whose records are put in by joins. -/
  | record (name : String)
  | array (element : ValueType)
deriving DecidableEq

namespace ValueType

/-- The primitive type of a keyword or of one of its aliases. -/
def primitive? (keyword : String) : Option ValueType :=
  match keyword with
  | "bool" | "boolean" | "Boolean" => some .bool
  | "byte" | "Byte" => some .byte
  | "short" | "Int16" => some .short
  | "int" | "Int32" => some .int
  | "long" | "Int64" => some .long
  | "float" | "Single" => some .float
  | "double" | "Double" => some .double
  | "string" | "String" => some .string
  | _ => none

/-- The range of an integer type. -/
def integerRange? : ValueType → Option Numeral.Range
  | .byte => some .unsigned8
  | .short => some .signed16
  | .int => some .signed32
  | .long => some .signed64
  | _ => none

/-- Whether a type is an integer type. -/
def isInteger (type : ValueType) : Bool := type.integerRange?.isSome

/-- Whether a type is an enumeration. -/
def isEnum : ValueType → Bool
  | .enum _ => true
  | _ => false

/-- The type of the elements of an array. -/
def element? : ValueType → Option ValueType
  | .array element => some element
  | _ => none

/-- Whether joins put the values of a type in: records and arrays of them. -/
def isJoinFilled : ValueType → Bool
  | .record _ => true
  | .array element => element.isJoinFilled
  | _ => false

/-- The name of a type in generated declarations. -/
def typeName : ValueType → String
  | .bool => "bool"
  | .byte => "byte"
  | .short => "short"
  | .int => "int"
  | .long => "long"
  | .float => "float"
  | .double => "double"
  | .string => "string"
  | .composite kind => kind.name
  | .enum name => name
  | .reference name => name
  | .record name => name
  | .array element => element.typeName ++ "[]"

/-- The type of a column that may be one of several that make up an array. -/
def ofColumn (isArrayElement : Bool) (declared : ValueType) : ValueType :=
  if isArrayElement then .array declared else declared

end ValueType

end TypedSheets
