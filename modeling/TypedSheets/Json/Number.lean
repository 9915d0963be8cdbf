import TypedSheets.Json.Basic
import TypedSheets.Numeral.Integer

/-!
# JSON numbers

The numeral of a JSON number. Reading takes an integer of at most 64 bits exactly.
Anything else becomes a double in two roundings: first the significand, cut to what
fits in a 64-bit word, then its product with or quotient by a power of ten. Writing
gives the shortest decimal that rounds to the double.
-/

namespace TypedSheets.JsonNumber

open Numeral

/-- Doubles have the fewest digits that read back, a point in any case, and an
exponent with its sign outside of the decimal exponents from -5 to 15. -/
def style : NumberStyle where
  tie := .toEven
  positional := fun exponent => decide (-5 ≤ exponent) && decide (exponent ≤ 15)
  wholeEnding := ".0"
  notANumber := "null"
  infinite := "null"

/-- The text of a JSON number; a double that is not finite has none and is written as
`null`. -/
def write : JsonNumber → List Char
  | .integer value => writeInt value
  | .real value => if value.isFinite then (style.write value).toList else "null".toList

/-- The greatest value of a 64-bit word. -/
def wordLimit : Nat := 0xFFFFFFFFFFFFFFFF

/-- The magnitude of the least 64-bit word that has a sign. -/
def negativeLimit : Nat := 0x8000000000000000

/-- Append digits to a significand as long as it fits in a word; what does not fit is
left over. -/
def absorb (significand : Nat) : List Char → Nat × List Char
  | [] => (significand, [])
  | digit :: digits =>
      let next := 10 * significand + (digit.toNat - '0'.toNat)
      if next ≤ wordLimit then absorb next digits else (significand, digit :: digits)

/-- The double nearest to a power of ten. -/
def powerOfTen (exponent : Nat) : Double :=
  Double.ofQuotient false ⟨Nat.pow 10 exponent, 1⟩

/-- The double a significand and an exponent of ten denote; none beyond the range.
Powers of ten beyond the doubles are applied 308 at a time, in at most `fuel`
steps. -/
def scaled? (significand : Double) (exponent : Int) : Nat → Option Double
  | 0 => some Double.zero
  | fuel + 1 =>
      if exponent.natAbs ≤ 308 then
        let power := (powerOfTen exponent.natAbs).toQuotient
        if exponent < 0 then
          some (Double.ofQuotient false (significand.toQuotient.div power))
        else
          let product := Double.ofQuotient false (significand.toQuotient.mul power)
          if product.isFinite then some product else none
      else if significand.isZero then some significand
      else if 0 ≤ exponent then none
      else
        scaled? (Double.ofQuotient false (significand.toQuotient.div (powerOfTen 308).toQuotient))
          (exponent + 308) fuel

/-- The double of a significand and an exponent of ten with a sign; none beyond the
range. -/
def ofScientific? (negative : Bool) (significand : Nat) (exponent : Int) : Option JsonNumber :=
  (scaled? (Double.ofInt significand) exponent 4).map fun value =>
    .real (if negative then value.negate else value)

/-- The number that the parts of a numeral denote: the digits before and after the
point, and the exponent. A numeral beyond the doubles denotes none. -/
def ofParts? (negative : Bool) (whole : List Char) (fraction : Option (List Char))
    (exponent : Option Int) : Option JsonNumber :=
  let (significand, wholeRest) := absorb 0 whole
  match fraction, exponent with
  | none, none =>
      if wholeRest ≠ [] then ofScientific? negative significand wholeRest.length
      else if !negative then some (.integer significand)
      else if significand = 0 ∨ negativeLimit < significand then ofScientific? true significand 0
      else some (.integer (-(significand : Int)))
  | _, _ =>
      let digits := fraction.getD []
      let (significand, fractionRest) := absorb significand digits
      let places : Int := (digits.length : Int) - fractionRest.length
      ofScientific? negative significand (wholeRest.length - places + exponent.getD 0)

/-- Read the exponent of a numeral, if it has one; fails on a malformed one. -/
def readExponent? : List Char → Option (Option Int × List Char)
  | [] => some (none, [])
  | mark :: rest =>
      if mark = 'e' ∨ mark = 'E' then
        let (negative, rest) :=
          match rest with
          | '+' :: rest => (false, rest)
          | '-' :: rest => (true, rest)
          | rest => (false, rest)
        let digits := rest.takeWhile Char.isDigit
        if digits = [] then none
        else
          let size : Int := Nat.ofDigitChars 10 digits 0
          some (some (if negative then -size else size), rest.dropWhile Char.isDigit)
      else some (none, mark :: rest)

/-- Read the digits after the point of a numeral, if it has one; fails on a point
without digits. -/
def readFraction? : List Char → Option (Option (List Char) × List Char)
  | '.' :: rest =>
      let digits := rest.takeWhile Char.isDigit
      if digits = [] then none else some (some digits, rest.dropWhile Char.isDigit)
  | rest => some (none, rest)

/-- Read a numeral without its sign. -/
def readMagnitude? (negative : Bool) (characters : List Char) :
    Option (Option JsonNumber × List Char) :=
  let whole := characters.takeWhile Char.isDigit
  if whole = [] ∨ (whole.head? = some '0' ∧ whole.length ≠ 1) then none
  else do
    let (fraction, rest) ← readFraction? (characters.dropWhile Char.isDigit)
    let (exponent, rest) ← readExponent? rest
    some (ofParts? negative whole fraction exponent, rest)

/-- Read the numeral a text begins with: the number it denotes, if any. -/
def read? : List Char → Option (Option JsonNumber × List Char)
  | '-' :: rest => readMagnitude? true rest
  | characters => readMagnitude? false characters

end TypedSheets.JsonNumber
