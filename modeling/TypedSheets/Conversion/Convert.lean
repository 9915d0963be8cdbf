import TypedSheets.Conversion.Literal
import TypedSheets.Conversion.Members

/-!
# Conversion of cells

The value that the text of a cell has for a type; none for a blank or unreadable
cell. Strings are taken as they stand, enumerations by member name with the name of
the type allowed before it, integers also as members of an enumeration, and arrays
element by element.
-/

namespace TypedSheets

/-- Characters with every carriage return before a line feed left out. -/
def Text.unifyLineEnds : List Char → List Char
  | [] => []
  | '\r' :: '\n' :: rest => '\n' :: Text.unifyLineEnds rest
  | character :: rest => character :: Text.unifyLineEnds rest

namespace EnumDef

/-- What follows a name and a dot. -/
def afterName? (name : String) (text : List Char) : Option (List Char) :=
  (Text.stripPrefix? name.toList text).bind (Text.stripPrefix? ['.'])

/-- Member text without the name of the enumeration before it, full or short; other
text stays as it is. -/
def withoutName (definition : EnumDef) (text : List Char) : List Char :=
  let trimmed := Text.trimChars text
  match afterName? definition.name trimmed with
  | some member => member
  | none => (afterName? definition.shortName trimmed).getD text

end EnumDef

namespace Registry

/-- Member text without the name of the enumeration it is for. -/
def memberText (registry : Registry) (name : String) (text : List Char) : List Char :=
  match registry.lookupEnum? name with
  | some definition => definition.withoutName text
  | none => text

/-- The value of text that is not blank, for a type that is no array. -/
def convertSimple? (registry : Registry) (type : ValueType) (text : List Char) : Option Value :=
  let whole := String.ofList text
  match type with
  | .string => some (Literal.text (String.ofList ('"' :: text ++ ['"'])))
  | .enum name =>
      match registry.parseEnum name (String.ofList (registry.memberText name text)) with
      | .ok value => some (.enum name value)
      | .error _ => none
  | .byte | .short | .int | .long =>
      match Literal.integer? type whole with
      | some value => some value
      | none => (registry.parseQualified? whole).map fun (_, value) => .int value
  | .bool => Literal.bool? whole
  | .float | .double => Literal.float? type whole
  | .composite kind => Literal.composite? kind whole
  | .reference name =>
      if registry.isReference name then some (.reference name (Text.trim whole)) else none
  | .record _ => none
  | .array _ => none

/-- The value of the characters of a cell for a type. Elements of a text array may
stand between quotes; any other element that is blank makes the whole array
unreadable. -/
def convertChars? (registry : Registry) : ValueType → List Char → Option Value
  | .array element, raw =>
      let text := Text.unifyLineEnds raw
      if Text.trimChars text = [] then none
      else
        ((Literal.arrayElements text).mapM fun part =>
          if element = .string then some (Value.text (String.ofList (Literal.unquote part)))
          else registry.convertChars? element part).map .array
  | type, raw =>
      let text := Text.unifyLineEnds raw
      if Text.trimChars text = [] then none else registry.convertSimple? type text

/-- The value of a cell for a type. -/
def convert? (registry : Registry) (type : ValueType) (raw : String) : Option Value :=
  registry.convertChars? type raw.toList

/-- The value of a cell for a declared type name. -/
def convertDeclared? (registry : Registry) (declared raw : String) : Option Value :=
  (registry.resolve? declared).bind fun type => registry.convert? type raw

/-- The value of a cell without a declared type: a member that is written with its
type, or the text as it stands. -/
def convertUntyped? (registry : Registry) (raw : String) : Option Value :=
  if Text.blank raw then none
  else
    match QualifiedMember.read? raw with
    | some _ => (registry.parseQualified? raw).map fun (typeName, value) => .enum typeName value
    | none => some (Literal.text (String.ofList ('"' :: raw.toList ++ ['"'])))

/-- The value of a cell of a sheet: an enumeration also takes the number of one of its
values. -/
def convertCell? (registry : Registry) (type : ValueType) (raw : String) : Option Value :=
  match registry.convert? type raw with
  | some value => some value
  | none =>
      match type with
      | .enum name => do
          let number ← (Numeral.Range.signed64.read? (Text.trimChars raw.toList)).map Int64.ofInt
          let definition ← registry.lookupEnum? name
          if definition.acceptsValue number then some (type.rebox (.int number)) else none
      | _ => none

end Registry

end TypedSheets
