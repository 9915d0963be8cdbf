import TypedSheets.Json.Number
import TypedSheets.Text.Split

/-!
# Reading scalars

The values that are neither arrays nor objects, each read from the front of the
characters together with what follows it. Reading goes in two steps: what is written,
which decides where the value ends, and what that denotes, which may be nothing.
-/

namespace TypedSheets.Json

/-- The characters after leading spaces, tabs and line ends. -/
def skipSpace (characters : List Char) : List Char :=
  characters.dropWhile fun character =>
    character == ' ' || character == '\t' || character == '\n' || character == '\r'

/-- The value of a hexadecimal digit. -/
def hexDigit? (character : Char) : Option Nat :=
  if character.isDigit then some (character.toNat - '0'.toNat)
  else if 'a' ≤ character ∧ character ≤ 'f' then some (character.toNat - 'a'.toNat + 10)
  else if 'A' ≤ character ∧ character ≤ 'F' then some (character.toNat - 'A'.toNat + 10)
  else none

/-- The value of four hexadecimal digits. -/
def hexFour? (a b c d : Char) : Option Nat := do
  let a ← hexDigit? a
  let b ← hexDigit? b
  let c ← hexDigit? c
  let d ← hexDigit? d
  some (((a * 16 + b) * 16 + c) * 16 + d)

/-! ## Strings -/

/-- What a string is written with: characters, and 16-bit units by their numbers. -/
inductive StringPart where
  | character (value : Char)
  | unit (value : Nat)

/-- The character that stands after a backslash for itself or for a control
character. -/
def simpleEscape? : Char → Option Char
  | '"' => some '"'
  | '\\' => some '\\'
  | '/' => some '/'
  | 'b' => some '\x08'
  | 'f' => some '\x0c'
  | 'n' => some '\n'
  | 'r' => some '\r'
  | 't' => some '\t'
  | _ => none

/-- Read the parts of a string up to its closing quote. -/
def readParts? : List Char → Option (List StringPart × List Char)
  | [] => none
  | '"' :: rest => some ([], rest)
  | '\\' :: 'u' :: a :: b :: c :: d :: rest => do
      let unit ← hexFour? a b c d
      let (parts, rest) ← readParts? rest
      some (.unit unit :: parts, rest)
  | '\\' :: escape :: rest => do
      let character ← simpleEscape? escape
      let (parts, rest) ← readParts? rest
      some (.character character :: parts, rest)
  | character :: rest => do
      if character.toNat < 0x20 ∨ character = '\\' then none
      let (parts, rest) ← readParts? rest
      some (.character character :: parts, rest)

/-- The character that a surrogate pair of units encodes. -/
def surrogatePair (high low : Nat) : Char :=
  Char.ofNat (0x10000 + (high - 0xD800) * 0x400 + (low - 0xDC00))

/-- The characters that parts denote: a pair of surrogates makes one, half of a pair
none. -/
def charactersOf? : List StringPart → Option (List Char)
  | [] => some []
  | .character value :: parts => (charactersOf? parts).map (value :: ·)
  | .unit value :: parts =>
      if value < 0xD800 ∨ 0xDFFF < value then (charactersOf? parts).map (Char.ofNat value :: ·)
      else
        match parts with
        | .unit low :: parts =>
            if value ≤ 0xDBFF ∧ 0xDC00 ≤ low ∧ low ≤ 0xDFFF then
              (charactersOf? parts).map (surrogatePair value low :: ·)
            else none
        | _ => none

/-- Read the rest of a string after its opening quote: the text it denotes, if any. -/
def readText? (characters : List Char) : Option (Option String × List Char) :=
  (readParts? characters).map fun (parts, rest) =>
    ((charactersOf? parts).map String.ofList, rest)

/-! ## Scalars -/

/-- Read a value that is neither an array nor an object. -/
def readScalar? (characters : List Char) : Option (Json × List Char) :=
  match characters with
  | '"' :: rest => (readText? rest).map fun (text, rest) => (text.elim .unreadable .string, rest)
  | _ =>
      match Text.stripPrefix? "null".toList characters with
      | some rest => some (.null, rest)
      | none =>
          match Text.stripPrefix? "true".toList characters with
          | some rest => some (.bool true, rest)
          | none =>
              match Text.stripPrefix? "false".toList characters with
              | some rest => some (.bool false, rest)
              | none =>
                  (JsonNumber.read? characters).map fun (value, rest) =>
                    (value.elim .unreadable .number, rest)

end TypedSheets.Json
