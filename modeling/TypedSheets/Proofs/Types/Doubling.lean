import TypedSheets.Proofs.Types.AutomaticFlags

/-!
# The next power of two

The next power of two after a value is found by doubling one until it is above the value. As no
word is beyond the greatest one, this comes to an end for every value: with the least power above
it, or, from the greatest power of two on, with none. Every double on the way is a word of its
own, so nothing is ever cut off. A flag without a value that follows one with a value gets what
the doubling gives, no matter where that value is from.
-/

namespace TypedSheets.EnumDef

open Numeral

variable {value power : Int64} {outcome : Option Int64}

/-- What doubling a power until it is above a value comes to: the power that is reached, or none
where the double of a power is no word. -/
inductive Climbs (value : Int64) : Int64 → Option Int64 → Prop where
  | reached {power : Int64} (above : value < power) : Climbs value power (some power)
  | doubled {power double : Int64} {outcome : Option Int64} (within : power ≤ value)
      (exact : word? (power.toInt * 2) = some double) (rest : Climbs value double outcome) :
      Climbs value power outcome
  | ended {power : Int64} (within : power ≤ value) (beyond : word? (power.toInt * 2) = none) :
      Climbs value power none

/-- Doubling comes to one end at most. -/
theorem Climbs.unique {first second : Option Int64} (left : Climbs value power first)
    (right : Climbs value power second) : first = second := by
  induction left with
  | reached above =>
      cases right with
      | reached _ => rfl
      | doubled within _ _ => exact absurd above (Int64.not_lt.mpr within)
      | ended within _ => exact absurd above (Int64.not_lt.mpr within)
  | doubled within exact _ ih =>
      cases right with
      | reached above => exact absurd above (Int64.not_lt.mpr within)
      | doubled _ also rest =>
          obtain rfl := Option.some.inj (exact.symm.trans also)
          exact ih rest
      | ended _ beyond =>
          rw [exact] at beyond
          cases beyond
  | ended within beyond =>
      cases right with
      | reached above => exact absurd above (Int64.not_lt.mpr within)
      | doubled _ exact _ =>
          rw [exact] at beyond
          cases beyond
      | ended _ _ => rfl

/-- The double of a power of two that is not above a value is no more above it than the next
power of two. -/
theorem double_le {double : Int64} {exponent other : Nat} (isPower : power.toInt = 2 ^ exponent)
    (within : power ≤ value) (exact : word? (power.toInt * 2) = some double)
    (above : value.toInt < 2 ^ other) : double.toInt ≤ 2 ^ other := by
  have less : (2 : Int) ^ exponent < 2 ^ other := by
    rw [← isPower]
    exact Int.lt_of_le_of_lt (Int64.le_iff_toInt_le.mp within) above
  rw [word?_eq_some_iff.mp exact, isPower, ← pow_succ]
  exact pow_le_pow_right₀ (by decide) (lt_of_pow_lt less)

/-- From a power of two below which there is none above a value, doubling comes to the next
one. -/
theorem climbs_nextPower? {exponent : Nat} (isPower : power.toInt = 2 ^ exponent)
    (least : ∀ other : Nat, value.toInt < 2 ^ other → power.toInt ≤ 2 ^ other) :
    Climbs value power (nextPower? value) := by
  -- By induction on how many powers of two are left among the words.
  generalize left : 63 - exponent = count
  induction count generalizing power exponent with
  | zero => exact absurd (exponent_lt isPower) (by omega)
  | succ count ih =>
      by_cases within : power ≤ value
      · have doubles := nextPower?_of_isPower ⟨exponent, isPower⟩
        cases exact : word? (power.toInt * 2) with
        | some double =>
            have next : double.toInt = 2 ^ (exponent + 1) := by
              rw [word?_eq_some_iff.mp exact, isPower, pow_succ]
            have rest := ih next (fun other => double_le isPower within exact) (by omega)
            exact .doubled within exact rest
        | none =>
            rw [exact, nextPower?_eq_none_iff] at doubles
            have high : 2 ^ 62 ≤ value.toInt := le_trans doubles (Int64.le_iff_toInt_le.mp within)
            rw [nextPower?_eq_none_iff.mpr high]
            exact .ended within exact
      · have above : value < power := Int64.not_le.mp within
        have next : nextPower? value = some power :=
          nextPower?_eq_some_iff.mpr ⟨⟨exponent, isPower⟩, Int64.lt_iff_toInt_lt.mp above, least⟩
        rw [next]
        exact .reached above

/-- Doubling one comes to an end for every value, and this is the next power of two. -/
theorem climbs_one_iff : Climbs value 1 outcome ↔ outcome = nextPower? value := by
  have one : (1 : Int64).toInt = 2 ^ 0 := rfl
  have climbs : Climbs value 1 (nextPower? value) := by
    apply climbs_nextPower? one
    intro other _
    exact one_le_pow₀ (by decide)
  constructor
  · intro also
    exact also.unique climbs
  · rintro rfl
    exact climbs

/-- Whether a word is the least power of two above a value and above zero. -/
def IsNextPower (value power : Int64) : Prop :=
  IsLeast {other : Int | max value.toInt 0 < other ∧ ∃ exponent : Nat, other = 2 ^ exponent} power.toInt

theorem nextPower?_eq_some_iff_isNextPower : nextPower? value = some power ↔ IsNextPower value power := by
  have positive : ∀ exponent : Nat, (0 : Int) < 2 ^ exponent := fun _ => pow_pos (by decide) _
  rw [nextPower?_eq_some_iff]
  constructor
  · rintro ⟨⟨exponent, isPower⟩, above, least⟩
    refine ⟨⟨max_lt above (isPower ▸ positive exponent), exponent, isPower⟩, ?_⟩
    rintro _ ⟨higher, other, rfl⟩
    exact least other (max_lt_iff.mp higher).1
  · rintro ⟨⟨above, isPower⟩, least⟩
    refine ⟨isPower, (max_lt_iff.mp above).1, ?_⟩
    intro other higher
    exact least ⟨max_lt higher (positive other), other, rfl⟩

/-- A member keeps its name when it is numbered. -/
theorem getElem?_normalized {definition : EnumDef} {place : Nat} {name : String}
    {own : Option Int64} (declared : definition.members[place]? = some ⟨name, own⟩) :
    definition.normalized.members[place]? = some ⟨name, definition.valueAt? place⟩ := by
  have names : definition.normalized.members.map EnumMember.name
      = definition.members.map EnumMember.name := map_name_assign _ _ _
  have kept : definition.normalized.members[place]?.map EnumMember.name = some name := by
    rw [← List.getElem?_map, names, List.getElem?_map, declared]
    rfl
  rcases Option.map_eq_some_iff.mp kept with ⟨⟨_, numbered⟩, found, rfl⟩
  rw [valueAt?, found]
  rfl

/-- Doubling one ends for every value with the least power of two above it and above zero, or with
none where no word is left, and this is what a flag without a value gets after one with the
value. -/
theorem flag_gets_nextPower (value : Int64) :
    (∀ outcome, Climbs value 1 outcome ↔ outcome = nextPower? value)
      ∧ (∀ power, nextPower? value = some power ↔ IsNextPower value power)
      ∧ (nextPower? value = none ↔ 2 ^ 62 ≤ value.toInt)
      ∧ ∀ (definition : EnumDef) (place : Nat) (name : String), definition.flags = true →
        definition.valueAt? place = some value →
          definition.members[place + 1]? = some ⟨name, none⟩ →
            definition.normalized.members[place + 1]? = some ⟨name, nextPower? value⟩ := by
  refine ⟨fun _ => climbs_one_iff, fun _ => nextPower?_eq_some_iff_isNextPower,
    nextPower?_eq_none_iff, ?_⟩
  intro definition place name flags before automatic
  rw [getElem?_normalized automatic, valueAt?_succ_of_openAt flags ⟨name, automatic⟩, before]
  rfl

/-- Two flags without a value after one that is just below the greatest power of two. -/
def lastTags : EnumDef :=
  ⟨"Tags", true, [⟨"Low", some 0x3fffffffffffffff⟩, ⟨"High", none⟩, ⟨"Beyond", none⟩]⟩

/-- The first of them gets this power, which the second one is beyond. -/
theorem lastTags_get_nextPower :
    lastTags.flags = true
      ∧ lastTags.valueAt? 0 = some 0x3fffffffffffffff
      ∧ lastTags.members[0 + 1]? = some ⟨"High", none⟩
      ∧ lastTags.normalized.members[0 + 1]? = some ⟨"High", some 0x4000000000000000⟩
      ∧ lastTags.valueAt? 1 = some 0x4000000000000000
      ∧ lastTags.members[1 + 1]? = some ⟨"Beyond", none⟩
      ∧ lastTags.normalized.members[1 + 1]? = some ⟨"Beyond", none⟩ := by
  have low : lastTags.valueAt? 0 = some 0x3fffffffffffffff := by decide +kernel
  have high : lastTags.valueAt? 1 = some 0x4000000000000000 := by decide +kernel
  have next : nextPower? 0x3fffffffffffffff = some 0x4000000000000000 := by decide +kernel
  have beyond : nextPower? 0x4000000000000000 = none := by decide +kernel
  have first := (flag_gets_nextPower 0x3fffffffffffffff).2.2.2 lastTags 0 "High" rfl low rfl
  have second := (flag_gets_nextPower 0x4000000000000000).2.2.2 lastTags 1 "Beyond" rfl high rfl
  rw [next] at first
  rw [beyond] at second
  exact ⟨rfl, low, rfl, first, high, rfl, second⟩

end TypedSheets.EnumDef
