import TypedSheets.Json.Basic
import TypedSheets.Numeral.Integer

/-!
# Reading values of a known shape

What a JSON value means where a text, a number, an optional value, a choice of names
or a structure is expected. A structure may be written as an object or as the list of
its fields in their order; an object may hold fields that are not asked for, whatever
their values, but no known field twice.
-/

namespace TypedSheets.Json

open Numeral

/-- The text a value is. -/
def asString? : Json → Option String
  | .string text => some text
  | _ => none

/-- The Boolean a value is. -/
def asBool? : Json → Option Bool
  | .bool value => some value
  | _ => none

/-- The integer in a range that a value is; a number with a point is none. -/
def asInteger? (range : Range) : Json → Option Int
  | .number (.integer value) => if range.holds value then some value else none
  | _ => none

/-- The 64-bit word a value is. -/
def asWord? (json : Json) : Option Int64 :=
  (json.asInteger? Range.signed64).map Int64.ofInt

/-- The natural number of at most 64 bits a value is. -/
def asNat? (json : Json) : Option Nat :=
  (json.asInteger? Range.unsigned64).map Int.toNat

/-- The finite double a value is, integers included. -/
def asDouble? : Json → Option Double
  | .number (.integer value) => some (Double.ofInt value)
  | .number (.real value) => if value.isFinite then some value else none
  | _ => none

/-- The items of an array, all of which have to be readable. -/
def asList? {α : Type} (item? : Json → Option α) : Json → Option (List α)
  | .array items => items.mapM item?
  | _ => none

/-- An optional value, absent where it is `null`. -/
def asOptional? {α : Type} (value? : Json → Option α) : Json → Option (Option α)
  | .null => some none
  | json => (value? json).map some

/-- The name of a choice without content: a text, or an object with that one key and
nothing in it. -/
def asChoice? : Json → Option String
  | .string name => some name
  | .object [(name, .null)] => some name
  | _ => none

/-- Whether a key stands at most once in the entries of an object. -/
def atMostOnce (entries : List (String × Json)) (key : String) : Bool :=
  decide ((entries.filter fun entry => entry.1 == key).length ≤ 1)

/-- The fields of a structure that is written as an object. -/
def namedFields? (names : List String) : Json → Option (String → Option Json)
  | .object entries =>
      if names.all (atMostOnce entries) then some fun name => entries.lookup name else none
  | _ => none

/-- The fields of a structure by name, given the names in their order. -/
def fields? (names : List String) : Json → Option (String → Option Json)
  | .array items =>
      if items.length ≤ names.length then some fun name => (names.zip items).lookup name
      else none
  | json => json.namedFields? names

/-- A field that has to be there. -/
def required? {α : Type} (value? : Json → Option α) (field : Option Json) : Option α :=
  field.bind value?

/-- A field that stands for a default where it is missing. -/
def orDefault? {α : Type} (default : α) (value? : Json → Option α) (field : Option Json) :
    Option α :=
  match field with
  | none => some default
  | some json => value? json

end TypedSheets.Json
