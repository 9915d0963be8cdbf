import Mathlib
import TypedSheets.Numeral.Double

/-!
# Finite numbers

A number is finite if the exponent bits of its magnitude are not all set. A 64-bit integer
is rounded to 53 bits in the unit that its size has, so it is far from that.
-/

namespace TypedSheets.Numeral

theorem Double.isFinite_ofMagnitude (negative : Bool) {magnitude : Nat}
    (below : magnitude < 2047 * exponentUnit) : (ofMagnitude negative magnitude).isFinite = true := by
  have word : (if negative then signUnit + magnitude else magnitude) < 2 ^ 64 := by
    rw [exponentUnit] at below
    rw [signUnit]
    split <;> omega
  rw [isFinite, exponentBits, ofMagnitude, bits_mk, UInt64.toNat_ofNat_of_lt' word, bne_iff_ne]
  rw [exponentUnit] at below ⊢
  rw [signUnit]
  split <;> omega

namespace Quotient

theorem nearest_le (quotient : Quotient) :
    quotient.nearest ≤ quotient.numerator / quotient.denominator + 1 := by
  simp only [nearest]
  split
  · omega
  · split <;> omega

theorem floorLog2_whole {value : Nat} (positive : value ≠ 0) :
    floorLog2 ⟨value, 1⟩ = value.log2 := by
  have reached : atLeastPower 2 ⟨value, 1⟩ (value.log2 : Int) = true := by
    rw [atLeastPower, if_neg (by omega)]
    simpa using Nat.log2_self_le positive
  have one : Nat.log2 1 = 0 := by decide
  simp only [floorLog2, one, Nat.cast_zero, Int.sub_zero, reached, if_true]

/-- An integer has at most 53 bits in the unit that its size has. -/
theorem nearest_inUnits_le (value : Nat) :
    (inUnits 2 ⟨value, 1⟩ ((value.log2 : Int) - 52)).nearest ≤ 2 ^ 53 := by
  have less : value < 2 ^ (value.log2 + 1) := Nat.lt_log2_self
  rw [inUnits]
  split
  · next fraction =>
      have places : ((value.log2 : Int) - 52).natAbs = 52 - value.log2 := by omega
      have bound : value * 2 ^ (52 - value.log2) < 2 ^ 53 := by
        calc value * 2 ^ (52 - value.log2)
            < 2 ^ (value.log2 + 1) * 2 ^ (52 - value.log2) :=
              Nat.mul_lt_mul_of_pos_right less (Nat.two_pow_pos _)
          _ = 2 ^ 53 := by
              rw [← Nat.pow_add]
              congr 1
              omega
      apply (nearest_le _).trans
      simpa [places] using bound
  · next whole =>
      have places : ((value.log2 : Int) - 52).natAbs = value.log2 - 52 := by omega
      have bound : value / 2 ^ (value.log2 - 52) < 2 ^ 53 := by
        apply Nat.div_lt_of_lt_mul
        rw [← Nat.pow_add]
        have exponents : value.log2 - 52 + 53 = value.log2 + 1 := by omega
        rwa [exponents]
      apply (nearest_le _).trans
      simpa [places] using bound

/-- A small multiple of a small power of two is less than a great power of two. -/
theorem atLeastPower_scaled {coefficient top : Nat} {exponent : Int} (small : coefficient ≤ 2 ^ 53)
    (low : exponent ≤ 11) (great : 65 ≤ top) :
    atLeastPower 2 (scaled 2 coefficient exponent) (top : Int) = false := by
  have beyond : 2 ^ 64 < 2 ^ top := Nat.pow_lt_pow_right (by decide) (by omega)
  rw [atLeastPower, if_neg (by omega), Int.natAbs_natCast, decide_eq_false_iff_not, Nat.not_le, scaled]
  split
  · calc coefficient
        < 2 ^ top := by omega
      _ ≤ Nat.pow 2 exponent.natAbs * 2 ^ top := Nat.le_mul_of_pos_left _ (Nat.two_pow_pos _)
  · have unit : Nat.pow 2 exponent.natAbs ≤ 2 ^ 11 := Nat.pow_le_pow_right (by decide) (by omega)
    calc coefficient * Nat.pow 2 exponent.natAbs
        ≤ 2 ^ 53 * 2 ^ 11 := Nat.mul_le_mul small unit
      _ < 1 * 2 ^ top := by omega

end Quotient

/-- A 64-bit integer has a nearest double. -/
theorem BinaryFormat.exists_round?_word {value : Nat} (positive : value ≠ 0) (word : value < 2 ^ 64) :
    ∃ coefficient, coefficient ≤ 2 ^ 53
      ∧ BinaryFormat.double.round? ⟨value, 1⟩ = some (coefficient, (value.log2 : Int) - 52) := by
  have bits : value.log2 < 64 := (Nat.log2_lt positive).mpr word
  have small := Quotient.nearest_inUnits_le value
  have unit : max ((value.log2 : Int) - ((53 : Nat) - 1)) (-1074) = (value.log2 : Int) - 52 := by omega
  have low : (value.log2 : Int) - 52 ≤ 11 := by omega
  have inside := Quotient.atLeastPower_scaled small low (show 65 ≤ 1024 by decide)
  rw [Nat.cast_ofNat] at inside
  refine ⟨_, small, ?_⟩
  simp only [BinaryFormat.round?, BinaryFormat.double, Quotient.floorLog2_whole positive, unit, inside,
    Bool.false_eq_true, if_false]

/-- A 64-bit integer is a finite number. -/
theorem Double.isFinite_ofInt {value : Int} (word : value.natAbs < 2 ^ 64) :
    (Double.ofInt value).isFinite = true := by
  rw [ofInt, ofQuotient]
  split
  · exact isFinite_ofMagnitude _ (by decide)
  · next positive =>
      have bits : value.natAbs.log2 < 64 := (Nat.log2_lt positive).mpr word
      rcases BinaryFormat.exists_round?_word positive word with ⟨coefficient, small, rounded⟩
      rw [rounded]
      apply isFinite_ofMagnitude
      dsimp only
      rw [exponentUnit]
      omega

end TypedSheets.Numeral
