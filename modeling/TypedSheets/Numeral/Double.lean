/-!
# Binary floating point

Double precision numbers as their 64 bits, with the exact rational value of a finite
one and the rounding of a rational number to the nearest representable one. All
arithmetic is on naturals: a product or a quotient is formed exactly and rounded
once.
-/

namespace TypedSheets.Numeral

/-- A double precision number, given by its sign bit, eleven exponent bits and
fifty-two fraction bits. -/
structure Double where
  bits : UInt64
deriving DecidableEq

namespace Double

/-- The value of the sign bit, which is the number of magnitudes. -/
def signUnit : Nat := 0x8000000000000000

/-- The value of the lowest exponent bit, which is the number of fractions. -/
def exponentUnit : Nat := 0x10000000000000

/-- Sign bit. -/
def negative (value : Double) : Bool :=
  decide (signUnit ≤ value.bits.toNat)

/-- The eleven exponent bits. -/
def exponentBits (value : Double) : Nat :=
  value.bits.toNat / exponentUnit % 2048

/-- The fifty-two fraction bits. -/
def fractionBits (value : Double) : Nat :=
  value.bits.toNat % exponentUnit

/-- Neither infinite nor a NaN. -/
def isFinite (value : Double) : Bool :=
  value.exponentBits != 2047

/-- Not a number. -/
def isNaN (value : Double) : Bool :=
  value.exponentBits == 2047 && value.fractionBits != 0

/-- Positive or negative zero. -/
def isZero (value : Double) : Bool :=
  value.bits.toNat % signUnit == 0

/-- Numerical equality: a NaN equals nothing, the two zeros equal each other. -/
def same (left right : Double) : Bool :=
  !left.isNaN && !right.isNaN && (left.bits == right.bits || (left.isZero && right.isZero))

/-- Whole multiple of a power of two that a finite number is, its sign apart. -/
def significand (value : Double) : Nat :=
  if value.exponentBits = 0 then value.fractionBits else exponentUnit + value.fractionBits

/-- The power of two that goes with `significand`. -/
def scale (value : Double) : Int :=
  if value.exponentBits = 0 then -1074 else (value.exponentBits : Int) - 1075

/-- The number with given sign and remaining 63 bits. -/
def ofMagnitude (negative : Bool) (magnitude : Nat) : Double :=
  ⟨UInt64.ofNat (if negative then signUnit + magnitude else magnitude)⟩

def zero : Double := ⟨0⟩

/-- The infinity of a sign. -/
def infinity (negative : Bool) : Double := ofMagnitude negative (2047 * exponentUnit)

/-- The NaN without sign. -/
def nan : Double := ofMagnitude false (2047 * exponentUnit + exponentUnit / 2)

/-- The number with the opposite sign bit. -/
def negate (value : Double) : Double :=
  ofMagnitude (!value.negative) (value.bits.toNat % signUnit)

end Double

/-- A nonnegative rational number, not necessarily in lowest terms. -/
structure Quotient where
  numerator : Nat
  denominator : Nat

namespace Quotient

/-- A natural number times a power of `base`. -/
def scaled (base coefficient : Nat) (exponent : Int) : Quotient :=
  if exponent < 0 then ⟨coefficient, Nat.pow base exponent.natAbs⟩
  else ⟨coefficient * Nat.pow base exponent.natAbs, 1⟩

/-- Whether a power of `base` is at most the quotient. -/
def atLeastPower (base : Nat) (quotient : Quotient) (exponent : Int) : Bool :=
  if exponent < 0 then decide (quotient.denominator ≤ quotient.numerator * Nat.pow base exponent.natAbs)
  else decide (quotient.denominator * Nat.pow base exponent.natAbs ≤ quotient.numerator)

/-- The quotient in units of a power of `base`. -/
def inUnits (base : Nat) (quotient : Quotient) (exponent : Int) : Quotient :=
  if exponent < 0 then ⟨quotient.numerator * Nat.pow base exponent.natAbs, quotient.denominator⟩
  else ⟨quotient.numerator, quotient.denominator * Nat.pow base exponent.natAbs⟩

/-- The nearest natural number, the even one of two equally near. -/
def nearest (quotient : Quotient) : Nat :=
  let whole := quotient.numerator / quotient.denominator
  let twice := 2 * (quotient.numerator % quotient.denominator)
  if twice < quotient.denominator then whole
  else if quotient.denominator < twice then whole + 1
  else whole + whole % 2

/-- The greatest exponent of two whose power is at most a positive quotient. -/
def floorLog2 (quotient : Quotient) : Int :=
  let guess : Int := (quotient.numerator.log2 : Int) - (quotient.denominator.log2 : Int)
  if quotient.atLeastPower 2 guess then guess else guess - 1

def mul (left right : Quotient) : Quotient :=
  ⟨left.numerator * right.numerator, left.denominator * right.denominator⟩

def div (left right : Quotient) : Quotient :=
  ⟨left.numerator * right.denominator, left.denominator * right.numerator⟩

end Quotient

/-- A binary format: how many significant bits, the least exponent of the unit, and
the exponent of the first power of two beyond its range. -/
structure BinaryFormat where
  precision : Nat
  lowest : Int
  beyond : Int

namespace BinaryFormat

def single : BinaryFormat := ⟨24, -149, 128⟩
def double : BinaryFormat := ⟨53, -1074, 1024⟩

/-- The nearest number of the format to a positive quotient, as a coefficient and
the exponent of its unit; none beyond the range. -/
def round? (format : BinaryFormat) (quotient : Quotient) : Option (Nat × Int) :=
  let exponent := max (quotient.floorLog2 - ((format.precision : Int) - 1)) format.lowest
  let coefficient := (quotient.inUnits 2 exponent).nearest
  if (Quotient.scaled 2 coefficient exponent).atLeastPower 2 format.beyond then none
  else some (coefficient, exponent)

end BinaryFormat

namespace Double

/-- The nearest double to a quotient, with a given sign; infinite beyond the range. -/
def ofQuotient (negative : Bool) (quotient : Quotient) : Double :=
  if quotient.numerator = 0 then ofMagnitude negative 0
  else
    match BinaryFormat.double.round? quotient with
    | some (coefficient, exponent) =>
        ofMagnitude negative ((exponent + 1074).toNat * exponentUnit + coefficient)
    | none => infinity negative

/-- The magnitude of a finite number. -/
def toQuotient (value : Double) : Quotient :=
  Quotient.scaled 2 value.significand value.scale

/-- The nearest double to an integer. -/
def ofInt (value : Int) : Double :=
  ofQuotient (decide (value < 0)) ⟨value.natAbs, 1⟩

/-- The nearest double to a quotient that was first rounded to single precision. -/
def ofSingle (negative : Bool) (quotient : Quotient) : Double :=
  if quotient.numerator = 0 then ofMagnitude negative 0
  else
    match BinaryFormat.single.round? quotient with
    | some (coefficient, exponent) => ofQuotient negative (Quotient.scaled 2 coefficient exponent)
    | none => infinity negative

@[simp] theorem bits_mk (bits : UInt64) : (Double.mk bits).bits = bits := rfl

end Double

end TypedSheets.Numeral
