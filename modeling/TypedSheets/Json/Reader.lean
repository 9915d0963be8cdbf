import TypedSheets.Json.Skip

/-!
# Reading JSON

From a text to the value it denotes. A value is read from the front of the
characters, together with what follows it; containers nest as deep as the number of
levels that is handed down, and deeper ones denote nothing.
-/

namespace TypedSheets.Json

/-- Read the items of an array up to its closing bracket, `fuel` bounding how many.
There are no more of them than characters. -/
def readItems? (item : List Char → Option (Json × List Char)) :
    Nat → List Char → Option (List Json × List Char)
  | 0, _ => none
  | fuel + 1, characters => do
      let (value, rest) ← item characters
      match skipSpace rest with
      | ']' :: rest => some ([value], rest)
      | ',' :: rest =>
          let (values, rest) ← readItems? item fuel rest
          some (value :: values, rest)
      | _ => none

/-- Read the entries of an object up to its closing brace, `fuel` bounding how
many. -/
def readEntries? (item : List Char → Option (Json × List Char)) :
    Nat → List Char → Option (List (Option String × Json) × List Char)
  | 0, _ => none
  | fuel + 1, characters =>
      match skipSpace characters with
      | '"' :: rest => do
          let (key, rest) ← readText? rest
          match skipSpace rest with
          | ':' :: rest =>
              let (value, rest) ← item rest
              match skipSpace rest with
              | '}' :: rest => some ([(key, value)], rest)
              | ',' :: rest =>
                  let (entries, rest) ← readEntries? item fuel rest
                  some ((key, value) :: entries, rest)
              | _ => none
          | _ => none
      | _ => none

/-- The object of entries, all of whose keys have to be texts. -/
def ofEntries (entries : List (Option String × Json)) : Json :=
  match entries.mapM fun (key, value) => key.map fun key => (key, value) with
  | some entries => .object entries
  | none => .unreadable

/-- Read a value in which containers nest at most `levels` deep, from at most `size`
characters. -/
def readWithin? (size : Nat) : Nat → List Char → Option (Json × List Char)
  | levels, characters =>
      match skipSpace characters, levels with
      | '[' :: rest, levels + 1 =>
          match skipSpace rest with
          | ']' :: rest => some (.array [], rest)
          | rest =>
              (readItems? (readWithin? size levels) size rest).map fun (items, rest) =>
                (.array items, rest)
      | '{' :: rest, levels + 1 =>
          match skipSpace rest with
          | '}' :: rest => some (.object [], rest)
          | rest =>
              (readEntries? (readWithin? size levels) size rest).map fun (entries, rest) =>
                (ofEntries entries, rest)
      | '[' :: rest, 0 => (skipContainer? size .array rest).map (.unreadable, ·)
      | '{' :: rest, 0 => (skipContainer? size .object rest).map (.unreadable, ·)
      | rest, _ => readScalar? rest

/-- Read a value in which containers nest at most `levels` deep. -/
def readValue? (levels : Nat) (characters : List Char) : Option (Json × List Char) :=
  readWithin? characters.length levels characters

/-- The value a JSON text denotes, with nothing but space around it. -/
def parse? (text : String) : Option Json :=
  match readValue? depthLimit text.toList with
  | some (value, rest) => if skipSpace rest = [] then some value else none
  | none => none

/-- The value of a JSON text whose keys need not be known: all of it denotes something
and the last of equal keys counts. -/
def read? (text : String) : Option Json :=
  ((parse? text).filter isReadable).map canonical

end TypedSheets.Json
