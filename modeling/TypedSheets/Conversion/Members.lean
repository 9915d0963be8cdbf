import TypedSheets.Text.Class
import TypedSheets.Types.Registry

/-!
# Enumeration members in text

The word that member text stands for: one member, or for a flag enumeration members
separated by bars. A text may also name the enumeration itself before a dot.
-/

namespace TypedSheets

/-- Why member text has no value. -/
inductive ConvertError where
  | unknownType (name : String)
  | notAnEnum (name : String)
  | unknownMember (typeName : String) (member : String)
deriving DecidableEq

/-- The text of an error. -/
def ConvertError.message : ConvertError → String
  | .unknownType name => "Unknown type: " ++ name
  | .notAnEnum name => "Type '" ++ name ++ "' is not an enum"
  | .unknownMember typeName member =>
      "'" ++ member ++ "' is not a member of enum '" ++ typeName ++ "'"

namespace EnumDef

/-- The value of a member, or the error that there is none. -/
def member (definition : EnumDef) (name : String) : Except ConvertError Int64 :=
  match definition.memberValue? name with
  | some value => .ok value
  | none => .error (.unknownMember definition.name name)

/-- The members between the bars of a text, blank segments left out. -/
def segments (text : String) : List String :=
  ((Text.splitChars '|' text.toList).map Text.trimChars).filterMap fun segment =>
    if segment = [] then none else some (String.ofList segment)

/-- The values of members combined bit by bit with a word, up to the first unknown
member. -/
def combine (definition : EnumDef) (bits : Int64) : List String → Except ConvertError Int64
  | [] => .ok bits
  | name :: names =>
      match definition.member name with
      | .ok value => combine definition (bits ||| value) names
      | .error error => .error error

/-- The word that member text stands for. -/
def parse (definition : EnumDef) (text : String) : Except ConvertError Int64 :=
  if definition.flags then definition.combine 0 (segments text)
  else definition.member (Text.trim text)

end EnumDef

/-- A text that names a type and, after a dot, members of it. -/
structure QualifiedMember where
  typeName : String
  member : String

namespace QualifiedMember

/-- Whether characters name a type: a name start, then word characters and dots. -/
def isTypeName : List Char → Bool
  | [] => false
  | character :: rest =>
      Text.isNameStart character && rest.all fun other => Text.isWord other || other == '.'

/-- Whether characters are identifiers separated by bars, with space around the bars
only. -/
def isMemberList (characters : List Char) : Bool :=
  match Text.splitChars '|' characters with
  | [] => false
  | [single] => Text.isIdentifier single
  | first :: rest =>
      Text.isIdentifier (Text.trimEnd first)
        && rest.all fun piece => Text.isIdentifier (Text.trimChars piece)

/-- The type and the members that a text names: the last dot separates the two. -/
def read? (text : String) : Option QualifiedMember :=
  match Text.splitLast? '.' (Text.trimChars text.toList) with
  | none => none
  | some (typeName, member) =>
      if isTypeName typeName ∧ isMemberList member then
        some ⟨String.ofList typeName, String.ofList member⟩
      else none

end QualifiedMember

namespace Registry

/-- The word that member text stands for in the enumeration of a name. -/
def parseEnum (registry : Registry) (typeName text : String) : Except ConvertError Int64 :=
  match registry.lookupEnum? typeName with
  | some definition => definition.parse text
  | none =>
      if (registry.resolve? typeName).isSome then .error (.notAnEnum typeName)
      else .error (.unknownType typeName)

/-- The enumeration and the word that a text stands for which names both the type and
the members. Only a flag enumeration takes several of them. -/
def parseQualified? (registry : Registry) (text : String) : Option (String × Int64) := do
  let qualified ← QualifiedMember.read? text
  let definition ← registry.lookupEnum? qualified.typeName
  if !definition.flags && qualified.member.toList.contains '|' then none
  else
    match registry.parseEnum definition.name qualified.member with
    | .ok value => some (definition.name, value)
    | .error _ => none

end Registry

end TypedSheets
