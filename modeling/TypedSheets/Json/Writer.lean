import TypedSheets.Json.Number

/-!
# Writing JSON

The two texts of a value: one without any space, and one with an entry a line and two
spaces of indentation a level. Both keep the order of the entries. What denotes
nothing is written as `null`.
-/

namespace TypedSheets.Json

/-- The digit of a value below sixteen, in lower case. -/
def hexChar (value : Nat) : Char :=
  Nat.digitChar (value % 16)

/-- How a character stands in a string. -/
def escapeChar (character : Char) : List Char :=
  if character = '"' then ['\\', '"']
  else if character = '\\' then ['\\', '\\']
  else if character = '\x08' then ['\\', 'b']
  else if character = '\x0c' then ['\\', 'f']
  else if character = '\n' then ['\\', 'n']
  else if character = '\r' then ['\\', 'r']
  else if character = '\t' then ['\\', 't']
  else if character.toNat < 0x20 then
    ['\\', 'u', '0', '0', hexChar (character.toNat / 16), hexChar character.toNat]
  else [character]

/-- A string between quotes. -/
def writeString (text : String) : List Char :=
  '"' :: text.toList.flatMap escapeChar ++ ['"']

/-- A line feed and the indentation of a level. -/
def newline (level : Nat) : List Char :=
  '\n' :: List.replicate (2 * level) ' '

mutual

/-- The text of a value without any space. -/
def writeCompact : Json → List Char
  | .null | .unreadable => "null".toList
  | .bool value => if value then "true".toList else "false".toList
  | .number value => value.write
  | .string text => writeString text
  | .array items => '[' :: [','].intercalate (compactItems items) ++ [']']
  | .object entries => '\x7b' :: [','].intercalate (compactEntries entries) ++ ['\x7d']

/-- The compact texts of a list of values. -/
def compactItems : List Json → List (List Char)
  | [] => []
  | item :: items => item.writeCompact :: compactItems items

/-- The compact texts of the entries of an object. -/
def compactEntries : List (String × Json) → List (List Char)
  | [] => []
  | (key, value) :: entries =>
      (writeString key ++ ':' :: value.writeCompact) :: compactEntries entries

end

mutual

/-- The indented text of a value that begins at a level of indentation. -/
def writePretty (level : Nat) : Json → List Char
  | .array [] => ['[', ']']
  | .array (item :: items) =>
      '[' :: newline (level + 1)
        ++ (',' :: newline (level + 1)).intercalate
            (item.writePretty (level + 1) :: prettyItems (level + 1) items)
        ++ newline level ++ [']']
  | .object [] => ['\x7b', '\x7d']
  | .object ((key, value) :: entries) =>
      '\x7b' :: newline (level + 1)
        ++ (',' :: newline (level + 1)).intercalate
            ((writeString key ++ ':' :: ' ' :: value.writePretty (level + 1))
              :: prettyEntries (level + 1) entries)
        ++ newline level ++ ['\x7d']
  | .null | .unreadable => "null".toList
  | .bool value => if value then "true".toList else "false".toList
  | .number value => value.write
  | .string text => writeString text

/-- The indented texts of a list of values. -/
def prettyItems (level : Nat) : List Json → List (List Char)
  | [] => []
  | item :: items => item.writePretty level :: prettyItems level items

/-- The indented texts of the entries of an object. -/
def prettyEntries (level : Nat) : List (String × Json) → List (List Char)
  | [] => []
  | (key, value) :: entries =>
      (writeString key ++ ':' :: ' ' :: value.writePretty level) :: prettyEntries level entries

end

/-- The text of a value without any space. -/
def compact (value : Json) : String :=
  String.ofList value.writeCompact

/-- The indented text of a value. -/
def pretty (value : Json) : String :=
  String.ofList (value.writePretty 0)

end TypedSheets.Json
