import TypedSheets.Numeral.Decimal
import TypedSheets.Text.Blank
import TypedSheets.Text.Split
import TypedSheets.Value.Basic

/-!
# Cell literals

The text of a cell as a value of a primitive type, a vector, or the elements of an
array.

    text       "text"            one pair of quotes taken off
    Boolean    true | FALSE      in any case
    integer    -12               within the range of its type
    vector     (1, 2.5, 3)       parentheses optional, exact number of components
    array      [a, (1,2), "x"]   brackets optional, nesting respected
-/

namespace TypedSheets.Literal

open Numeral Text

/-- A text without one pair of quotes around it. -/
def unquote (text : List Char) : List Char :=
  stripPair '"' '"' text

/-- A text value without one pair of quotes around it. -/
def text (text : String) : Value :=
  .text (String.ofList (unquote text.toList))

/-- The Boolean a text names. -/
def bool? (text : String) : Option Value :=
  let name := (trimChars text.toList).map Char.toLower
  if name = "true".toList then some (.bool true)
  else if name = "false".toList then some (.bool false)
  else none

/-- The integer of an integer type that a text denotes. -/
def integer? (type : ValueType) (text : String) : Option Value :=
  type.integerRange?.bind fun range =>
    (range.read? (trimChars text.toList)).map fun value => .int (Int64.ofInt value)

/-- The finite number of a floating point type that a text denotes. -/
def float? (type : ValueType) (text : String) : Option Value :=
  let numeral := FloatNumeral.read? (trimChars text.toList)
  let number :=
    match type with
    | .float => numeral.map FloatNumeral.toSingle
    | .double => numeral.map FloatNumeral.toDouble
    | _ => none
  (number.filter Double.isFinite).map .float

/-- Split at the commas that stand outside of quotes, parentheses and brackets; closing
ones without opening ones count below zero. The pieces keep the space around them. -/
def splitTop (quoted : Bool) (depth : Int) : List Char → List (List Char)
  | [] => [[]]
  | character :: rest =>
      if character = ',' ∧ quoted = false ∧ depth = 0 then [] :: splitTop quoted depth rest
      else
        let opens := !quoted && (character == '(' || character == '[')
        let closes := !quoted && (character == ')' || character == ']')
        let depth := if opens then depth + 1 else if closes then depth - 1 else depth
        match splitTop (quoted != (character == '"')) depth rest with
        | [] => [[character]]
        | piece :: pieces => (character :: piece) :: pieces

/-- The elements of a list without the space around them. -/
def elements (text : List Char) : List (List Char) :=
  (splitTop false 0 text).map trimChars

/-- The elements of an array literal; none in an empty one. -/
def arrayElements (text : List Char) : List (List Char) :=
  let inner := stripPair '[' ']' (trimChars text)
  if trimChars inner = [] then [] else elements inner

/-- A component of a vector. -/
def component? (kind : CompositeKind) (text : List Char) : Option Double :=
  if kind.isIntegral then (Range.signed32.read? text).map Double.ofInt
  else (FloatNumeral.read? text).map FloatNumeral.toSingle

/-- The vector a text denotes. -/
def composite? (kind : CompositeKind) (text : String) : Option Value :=
  let parts := elements (stripPair '(' ')' (trimChars text.toList))
  if parts.length = kind.arity then
    (parts.mapM fun part => component? kind part).map .vector
  else none

end TypedSheets.Literal
