import TypedSheets.Json.Scalar

/-!
# Passing over containers

Where an array or object ends, without the value it denotes. Containers may lie in each
other at any depth: those that are open are kept on a list, the innermost one first.
-/

namespace TypedSheets.Json

/-- A kind of container. -/
inductive Container where
  | array
  | object
deriving DecidableEq

/-- The bracket that ends a container. -/
def Container.closing : Container → Char
  | .array => ']'
  | .object => '}'

/-- What comes next in an open container. -/
inductive Turn where
  /-- Its end, or the first item. -/
  | first
  | item
  /-- Its end, or a comma with an item. -/
  | more

/-- The characters after the key of an item and its colon; an array has no keys. -/
def skipKey? : Container → List Char → Option (List Char)
  | .array, characters => some characters
  | .object, characters =>
      match skipSpace characters with
      | '"' :: rest =>
          match readParts? rest with
          | some (_, rest) =>
              match skipSpace rest with
              | ':' :: rest => some rest
              | _ => none
          | none => none
      | _ => none

/-- The characters after the ends of all open containers, found in at most `fuel`
steps. -/
def skipOpen? : Nat → List Container → Turn → List Char → Option (List Char)
  | _, [], _, characters => some characters
  | 0, _ :: _, _, _ => none
  | fuel + 1, container :: outer, .item, characters =>
      match skipKey? container characters with
      | none => none
      | some rest =>
          match skipSpace rest with
          | '[' :: rest => skipOpen? fuel (.array :: container :: outer) .first rest
          | '{' :: rest => skipOpen? fuel (.object :: container :: outer) .first rest
          | rest =>
              match readScalar? rest with
              | some (_, rest) => skipOpen? fuel (container :: outer) .more rest
              | none => none
  | fuel + 1, container :: outer, turn, characters =>
      match skipSpace characters with
      | [] => none
      | character :: rest =>
          if character = container.closing then skipOpen? fuel outer .more rest
          else
            match turn with
            | .more => if character = ',' then skipOpen? fuel (container :: outer) .item rest else none
            | _ => skipOpen? fuel (container :: outer) .item (character :: rest)

/-- The characters after a container, given those after its opening bracket, of which
there are at most `size`. Of two steps in a row at least one takes a character. -/
def skipContainer? (size : Nat) (container : Container) (characters : List Char) :
    Option (List Char) :=
  skipOpen? (2 * size + 2) [container] .first characters

end TypedSheets.Json
