import TypedSheets.Numeral.Decimal

/-!
# JSON values

The tree a JSON text denotes. An object keeps its entries as they were written, in
their order and with repeated keys; `canonical` is the reading in which the order
does not matter and the last of several equal keys counts. A part of a text that
denotes nothing has a place in the tree, too, for a reader may pass over it.
-/

namespace TypedSheets

/-- A JSON number: an integer of at most 64 bits, or a double. -/
inductive JsonNumber where
  | integer (value : Int)
  | real (value : Numeral.Double)
deriving DecidableEq

/-- A JSON value. -/
inductive Json where
  | null
  | bool (value : Bool)
  | number (value : JsonNumber)
  | string (text : String)
  | array (items : List Json)
  | object (entries : List (String × Json))
  /-- What a text writes down without denoting anything: a number beyond the doubles, a
  string with half of a surrogate pair, an object with such a key, or a container that
  lies too deep. -/
  | unreadable

instance : Inhabited Json := ⟨.null⟩

namespace Json

/-- How many arrays and objects may stand inside each other in a JSON text. -/
def depthLimit : Nat := 127

mutual

/-- How many arrays and objects stand inside each other. -/
def depth : Json → Nat
  | .array items => depthOfItems items + 1
  | .object entries => depthOfEntries entries + 1
  | _ => 0

/-- The greatest depth of a list of values. -/
def depthOfItems : List Json → Nat
  | [] => 0
  | item :: items => max item.depth (depthOfItems items)

/-- The greatest depth of the values of an object. -/
def depthOfEntries : List (String × Json) → Nat
  | [] => 0
  | (_, value) :: entries => max value.depth (depthOfEntries entries)

end

mutual

/-- Whether all parts of a value denote something. -/
def isReadable : Json → Bool
  | .array items => itemsReadable items
  | .object entries => entriesReadable entries
  | .unreadable => false
  | _ => true

/-- Whether all parts of a list of values denote something. -/
def itemsReadable : List Json → Bool
  | [] => true
  | item :: items => item.isReadable && itemsReadable items

/-- Whether all parts of the values of an object denote something. -/
def entriesReadable : List (String × Json) → Bool
  | [] => true
  | (_, value) :: entries => value.isReadable && entriesReadable entries

end

/-- Put a value under a key of an object whose keys ascend, in place of what was
there. -/
def insertKey (key : String) (value : Json) : List (String × Json) → List (String × Json)
  | [] => [(key, value)]
  | (other, held) :: entries =>
      if key = other then (key, value) :: entries
      else if key < other then (key, value) :: (other, held) :: entries
      else (other, held) :: insertKey key value entries

mutual

/-- A value whose objects have ascending keys, the last of equal keys having won. -/
def canonical : Json → Json
  | .array items => .array (canonicalItems items)
  | .object entries => .object (canonicalEntries [] entries)
  | other => other

/-- The canonical forms of a list of values. -/
def canonicalItems : List Json → List Json
  | [] => []
  | item :: items => item.canonical :: canonicalItems items

/-- Put the canonical forms of entries under their keys, one after the other. -/
def canonicalEntries (done : List (String × Json)) : List (String × Json) → List (String × Json)
  | [] => done
  | (key, value) :: entries => canonicalEntries (insertKey key value.canonical done) entries

end

end Json

end TypedSheets
