import TypedSheets.Text.Class.Alphabetic
import TypedSheets.Text.Class.Concealed
import TypedSheets.Text.Class.Numeric
import TypedSheets.Text.Class.Word

/-!
# Character classes

Letters, digits and word characters in the sense of Unicode. A class is given by
the points at which membership changes, so a code point belongs to it when an odd
number of those points lies at or below it.
-/

namespace TypedSheets.Text

/-- Whether a code point lies in a class given by its changes of membership. -/
def inClass (bounds : List Nat) (code : Nat) : Bool :=
  (bounds.takeWhile (· ≤ code)).length % 2 == 1

/-- An alphabetic character or one of the numeric categories. -/
def isAlphanumeric (character : Char) : Bool :=
  inClass Class.alphabeticBounds character.toNat || inClass Class.numericBounds character.toNat

/-- A decimal digit of any script. -/
def isDecimalDigit (character : Char) : Bool :=
  inClass Class.digitBounds character.toNat

/-- A word character: a letter, a mark, a decimal digit, a connector or a joiner. -/
def isWord (character : Char) : Bool :=
  inClass Class.wordBounds character.toNat

/-- A character without a shape of its own. -/
def isConcealed (character : Char) : Bool :=
  inClass Class.concealedBounds character.toNat

/-- A letter of the Latin alphabet without diacritics, or the underscore. -/
def isNameStart (character : Char) : Bool :=
  character.isAlpha || character == '_'

/-- A name start followed by word characters. -/
def isIdentifier : List Char → Bool
  | [] => false
  | character :: rest => isNameStart character && rest.all isWord

end TypedSheets.Text
