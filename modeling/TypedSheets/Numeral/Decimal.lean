import TypedSheets.Numeral.Double

/-!
# Decimals

Decimal numerals with a fraction and an exponent, read exactly and then rounded once
to single or double precision, and the shortest decimal that rounds back to a given
double.
-/

namespace TypedSheets.Numeral

/-- A signed coefficient times a power of ten. -/
structure Decimal where
  negative : Bool
  coefficient : Nat
  exponent : Int
deriving DecidableEq

namespace Decimal

/-- The rational magnitude, with exponents far beyond any binary format cut off: such
a number is out of range or indistinguishable from zero in every format. -/
def magnitude (decimal : Decimal) : Quotient :=
  let size : Int := (Nat.toDigits 10 decimal.coefficient).length + decimal.exponent
  if size < -400 then ⟨0, 1⟩
  else if 400 < size then Quotient.scaled 10 decimal.coefficient (min decimal.exponent 400)
  else Quotient.scaled 10 decimal.coefficient decimal.exponent

/-- The nearest double. -/
def toDouble (decimal : Decimal) : Double :=
  Double.ofQuotient decimal.negative decimal.magnitude

/-- The nearest single precision number, as a double. -/
def toSingle (decimal : Decimal) : Double :=
  Double.ofSingle decimal.negative decimal.magnitude

end Decimal

/-- A numeral of a floating point type. -/
inductive FloatNumeral where
  | nan
  | infinity (negative : Bool)
  | decimal (value : Decimal)
deriving DecidableEq

namespace FloatNumeral

/-- The exponent that a numeral ends with; none where it is malformed. -/
def exponent? : List Char → Option Int
  | [] => some 0
  | mark :: digits =>
      if mark = 'e' ∨ mark = 'E' then
        match digits with
        | '+' :: rest => unsigned? rest
        | '-' :: rest => (unsigned? rest).map (- ·)
        | rest => unsigned? rest
      else none
where
  /-- The value of a nonempty run of digits. -/
  unsigned? (digits : List Char) : Option Int :=
    if digits ≠ [] ∧ digits.all Char.isDigit then some (Nat.ofDigitChars 10 digits 0) else none

/-- A numeral without sign: digits, of which some may stand after a point, and an
optional exponent. -/
def unsigned? (negative : Bool) (characters : List Char) : Option Decimal :=
  let whole := characters.takeWhile Char.isDigit
  let afterWhole := characters.dropWhile Char.isDigit
  let (fraction, rest) :=
    match afterWhole with
    | '.' :: rest => (rest.takeWhile Char.isDigit, rest.dropWhile Char.isDigit)
    | rest => ([], rest)
  if whole = [] ∧ fraction = [] then none
  else
    (exponent? rest).map fun exponent =>
      { negative
        coefficient := Nat.ofDigitChars 10 (whole ++ fraction) 0
        exponent := exponent - fraction.length }

/-- A numeral without sign, the names of infinity and NaN included in any case. -/
def magnitude? (negative : Bool) (characters : List Char) : Option FloatNumeral :=
  let name := characters.map Char.toLower
  if name = "inf".toList ∨ name = "infinity".toList then some (.infinity negative)
  else if name = "nan".toList then some .nan
  else (unsigned? negative characters).map .decimal

/-- Read a floating point numeral. -/
def read? : List Char → Option FloatNumeral
  | '+' :: rest => magnitude? false rest
  | '-' :: rest => magnitude? true rest
  | rest => magnitude? false rest

/-- The double nearest to a numeral. -/
def toDouble : FloatNumeral → Double
  | .nan => Double.nan
  | .infinity negative => Double.infinity negative
  | .decimal value => value.toDouble

/-- The single precision number nearest to a numeral, as a double. -/
def toSingle : FloatNumeral → Double
  | .nan => Double.nan
  | .infinity negative => Double.infinity negative
  | .decimal value => value.toSingle

end FloatNumeral

/-- Which of two equally near decimals to take. -/
inductive Tie where
  | toEven
  | up
deriving DecidableEq

namespace Shortest

/-- The numbers that round to a double, both ends given in units of a quarter of its
unit in the last place. -/
structure Interval where
  low : Nat
  high : Nat
  /-- Quarter unit. -/
  exponent : Int
  /-- Whether the ends themselves round to the double. -/
  closed : Bool

/-- The interval of a finite double that is not zero. The step to the next smaller
double is half as wide at a power of two, the least one apart. -/
def interval (value : Double) : Interval :=
  let significand := value.significand
  { low := 4 * significand - (if value.fractionBits = 0 ∧ 1 < value.exponentBits then 1 else 2)
    high := 4 * significand + 2
    exponent := value.scale - 2
    closed := significand % 2 == 0 }

/-- Whether a multiple of a power of ten lies in an interval. -/
def holds (interval : Interval) (coefficient : Nat) (exponent : Int) : Bool :=
  let decimal := Quotient.scaled 10 coefficient exponent
  let quarters := decimal.inUnits 2 interval.exponent
  if interval.closed then
    decide (interval.low * quarters.denominator ≤ quarters.numerator)
      && decide (quarters.numerator ≤ interval.high * quarters.denominator)
  else
    decide (interval.low * quarters.denominator < quarters.numerator)
      && decide (quarters.numerator < interval.high * quarters.denominator)

/-- The greatest exponent of ten whose power is at most a positive quotient. -/
def floorLog10 (quotient : Quotient) : Int :=
  let guess : Int := ((Nat.toDigits 10 quotient.numerator).length : Int)
    - (Nat.toDigits 10 quotient.denominator).length
  if quotient.atLeastPower 10 guess then guess else guess - 1

/-- The multiple of a power of ten nearest to the value among its two neighbours that
lie in the interval. -/
def onGrid? (tie : Tie) (interval : Interval) (value : Quotient) (exponent : Int) : Option Nat :=
  let units := value.inUnits 10 exponent
  let below := units.numerator / units.denominator
  let twice := 2 * (units.numerator % units.denominator)
  match holds interval below exponent, holds interval (below + 1) exponent with
  | false, false => none
  | true, false => some below
  | false, true => some (below + 1)
  | true, true =>
      if twice < units.denominator then some below
      else if units.denominator < twice then some (below + 1)
      else
        match tie with
        | .up => some (below + 1)
        | .toEven => some (below + below % 2)

/-- The first of the grids from coarse to fine that has a point in the interval,
`fuel` grids being left to try. -/
def search (tie : Tie) (interval : Interval) (value : Quotient) : Nat → Int → Nat × Int
  | 0, exponent => ((value.inUnits 10 exponent).nearest, exponent)
  | fuel + 1, exponent =>
      match onGrid? tie interval value exponent with
      | some coefficient => (coefficient, exponent)
      | none => search tie interval value fuel (exponent - 1)

/-- Move the zeros a coefficient ends with into the exponent, `fuel` bounding how
many. -/
def dropZeros : Nat → Nat × Int → Nat × Int
  | 0, decimal => decimal
  | fuel + 1, (coefficient, exponent) =>
      if coefficient % 10 = 0 then dropZeros fuel (coefficient / 10, exponent + 1)
      else (coefficient, exponent)

end Shortest

/-- The decimal with the fewest digits that rounds to a finite double other than
zero, and of those the nearest to it: a coefficient and an exponent of ten. -/
def shortest (tie : Tie) (value : Double) : Nat × Int :=
  let exact := value.toQuotient
  Shortest.dropZeros 20
    (Shortest.search tie (Shortest.interval value) exact 17 (Shortest.floorLog10 exact))

/-- How a double is written. -/
structure NumberStyle where
  tie : Tie
  /-- Whether a number of this decimal exponent is written without an exponent. -/
  positional : Int → Bool
  /-- What follows a whole number written without an exponent. -/
  wholeEnding : String
  notANumber : String
  infinite : String

namespace NumberStyle

/-- Digits with a point so that the last of them stands for the given power of ten. -/
def withPoint (style : NumberStyle) (digits : List Char) (exponent : Int) : List Char :=
  if 0 ≤ exponent then
    digits ++ List.replicate exponent.toNat '0' ++ style.wholeEnding.toList
  else
    let places := exponent.natAbs
    let padded := List.replicate (places + 1 - digits.length) '0' ++ digits
    padded.take (padded.length - places) ++ '.' :: padded.drop (padded.length - places)

/-- Digits with a point after the first, and the exponent with its sign. -/
def withExponent (digits : List Char) (exponent : Int) : List Char :=
  let mantissa :=
    match digits with
    | first :: second :: rest => first :: '.' :: second :: rest
    | single => single
  mantissa ++ 'e' :: (if exponent < 0 then '-' else '+') :: Nat.toDigits 10 exponent.natAbs

/-- The numeral of a finite number, its sign apart. -/
def writeMagnitude (style : NumberStyle) (value : Double) : List Char :=
  if value.isZero then '0' :: style.wholeEnding.toList
  else
    let (coefficient, exponent) := shortest style.tie value
    let digits := Nat.toDigits 10 coefficient
    let leading := exponent + digits.length - 1
    if style.positional leading then style.withPoint digits exponent
    else withExponent digits leading

/-- The text of a number. -/
def write (style : NumberStyle) (value : Double) : String :=
  if value.isNaN then style.notANumber
  else
    let magnitude :=
      if value.isFinite then style.writeMagnitude value else style.infinite.toList
    String.ofList (if value.negative then '-' :: magnitude else magnitude)

end NumberStyle

end TypedSheets.Numeral
