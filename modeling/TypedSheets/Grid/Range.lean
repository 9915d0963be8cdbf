/-!
# Slice ranges

How a slice request meets a dimension: a negative index counts from the end, again
and again if need be, a positive one stops at the size, and a range whose start is not
before its end is empty.
-/

namespace TypedSheets.Grid

/-- The position in a dimension that an index of a slice request stands for. -/
def normalizeIndex (index : Int) (size : Nat) : Nat :=
  if 0 ≤ index then min index.toNat size
  else if size = 0 then 0
  else (index % (size : Int)).toNat

/-- The positions from which and before which a slice request selects. -/
def normalizeRange (start : Int) (stop : Option Int) (size : Nat) : Nat × Nat :=
  let first := normalizeIndex start size
  let last :=
    match stop with
    | some stop => normalizeIndex stop size
    | none => size
  if last ≤ first then (first, first) else (first, last)

theorem normalizeIndex_le (index : Int) (size : Nat) : normalizeIndex index size ≤ size := by
  unfold normalizeIndex
  split
  · exact Nat.min_le_right ..
  · split
    · omega
    · have positive : 0 < (size : Int) := by omega
      have below := Int.emod_lt_of_pos index positive
      have nonnegative := Int.emod_nonneg index (by omega : (size : Int) ≠ 0)
      omega

theorem normalizeRange_le (start : Int) (stop : Option Int) (size : Nat) :
    (normalizeRange start stop size).1 ≤ (normalizeRange start stop size).2
      ∧ (normalizeRange start stop size).2 ≤ size := by
  have first := normalizeIndex_le start size
  unfold normalizeRange
  cases stop with
  | none => simp only; split <;> simp <;> omega
  | some stop =>
      have last := normalizeIndex_le stop size
      simp only
      split <;> simp <;> omega

/-- A range without an end that begins at a position inside or after a dimension. -/
theorem normalizeRange_none (first size : Nat) :
    normalizeRange (first : Int) none size = (min first size, max (min first size) size) := by
  have start : normalizeIndex (first : Int) size = min first size := by
    simp [normalizeIndex]
  simp only [normalizeRange, start]
  split
  · next reached => rw [Nat.max_eq_left reached]
  · next before => rw [Nat.max_eq_right (Nat.min_le_right _ _)]

end TypedSheets.Grid
