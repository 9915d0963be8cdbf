import Mathlib
import TypedSheets.Types.EnumDef

/-!
# The values of members

Members without a value are given one by counting on from the member before, or, in a flag
enumeration, by going on to the next power of two. The names, the order and the values that
were given stay. The values go on to the same values when the members are numbered again, so
numbering twice changes nothing.

The two ways of numbering differ as a rule. They give the same values only to members that
follow a given value closely: one member after a value that is one less than a power of two,
two members after zero, and any number of members after the greatest value, which are left
without one.
-/

namespace TypedSheets

namespace Numeral

/-- A word stands for the integer that it was made of. -/
theorem word?_eq_some_iff {value : Int} {word : Int64} : word? value = some word ↔ word.toInt = value := by
  rw [word?]
  constructor
  · intro found
    split at found
    · next inside =>
        rw [Range.holds_iff] at inside
        rw [← Option.some.inj found]
        exact Int64.toInt_ofInt_of_le inside.1 (Int.lt_of_le_of_lt inside.2 (by decide))
    · cases found
  · rintro rfl
    rw [if_pos (Range.holds_signed64_toInt word), Int64.ofInt_toInt]

/-- There is no word for an integer beyond the greatest one. -/
theorem word?_eq_none {value : Int} (beyond : 2 ^ 63 ≤ value) : word? value = none := by
  rw [Option.eq_none_iff_forall_ne_some]
  intro word found
  have high := word.toInt_lt
  rw [word?_eq_some_iff.mp found] at high
  exact absurd beyond (Int.not_le.mpr high)

theorem exists_word (value : Int) (low : -2 ^ 63 ≤ value) (high : value < 2 ^ 63) :
    ∃ word, word? value = some word ∧ word.toInt = value :=
  ⟨Int64.ofInt value, word?_eq_some_iff.mpr (Int64.toInt_ofInt_of_le low high),
    Int64.toInt_ofInt_of_le low high⟩

end Numeral

namespace EnumDef

open Numeral

/-! ## Powers of two -/

/-- Whether a word is a power of two. -/
def IsPower (word : Int64) : Prop := ∃ exponent : Nat, word.toInt = 2 ^ exponent

theorem lt_of_pow_lt {first second : Nat} (less : (2 : Int) ^ first < 2 ^ second) : first < second :=
  (pow_lt_pow_iff_right₀ (by decide)).mp less

theorem toInt_power {exponent : Nat} (bound : exponent < 63) :
    (Int64.ofNat (Nat.pow 2 exponent)).toInt = 2 ^ exponent := by
  have inside : Nat.pow 2 exponent < 2 ^ 63 := Nat.pow_lt_pow_right (by decide) bound
  rw [Int64.toInt_ofNat_of_lt inside]
  exact Nat.cast_pow 2 exponent

theorem exponent_lt {word : Int64} {exponent : Nat} (power : word.toInt = 2 ^ exponent) :
    exponent < 63 := by
  apply lt_of_pow_lt
  rw [← power]
  exact word.toInt_lt

/-- The next power of two is the least one above a value. -/
theorem nextPower?_eq_some_iff {value power : Int64} :
    nextPower? value = some power ↔ IsPower power ∧ value.toInt < power.toInt
      ∧ ∀ exponent : Nat, value.toInt < 2 ^ exponent → power.toInt ≤ 2 ^ exponent := by
  have cast : ∀ exponent : Nat, ((Nat.pow 2 exponent : Nat) : Int) = 2 ^ exponent :=
    Nat.cast_pow 2
  simp only [nextPower?, Option.map_eq_some_iff, List.find?_range_eq_some, cast, List.mem_range,
    decide_eq_true_eq, Bool.not_eq_true', decide_eq_false_iff_not]
  constructor
  · rintro ⟨exponent, ⟨above, bound, least⟩, rfl⟩
    rw [toInt_power bound]
    refine ⟨⟨exponent, toInt_power bound⟩, above, ?_⟩
    intro other higher
    have ordered : exponent ≤ other := Nat.le_of_not_lt fun smaller => least other smaller higher
    exact pow_le_pow_right₀ (by decide) ordered
  · rintro ⟨⟨exponent, power⟩, above, least⟩
    have bound := exponent_lt power
    refine ⟨exponent, ⟨power ▸ above, bound, ?_⟩, ?_⟩
    · intro other smaller higher
      have reached := least other higher
      rw [power] at reached
      exact absurd (pow_lt_pow_right₀ (by decide) smaller) (Int.not_lt.mpr reached)
    · rw [← Int64.toInt_inj, toInt_power bound, power]

/-- There is a next power of two up to the greatest one. -/
theorem nextPower?_eq_none_iff {value : Int64} : nextPower? value = none ↔ 2 ^ 62 ≤ value.toInt := by
  have cast : ∀ exponent : Nat, ((Nat.pow 2 exponent : Nat) : Int) = 2 ^ exponent :=
    Nat.cast_pow 2
  simp only [nextPower?, Option.map_eq_none_iff, List.find?_range_eq_none, cast, Bool.not_eq_true',
    decide_eq_false_iff_not, Int.not_lt]
  constructor
  · intro every
    exact every 62 (by decide)
  · intro beyond exponent bound
    exact le_trans (pow_le_pow_right₀ (by decide) (Nat.le_of_lt_succ bound)) beyond

/-! ## Numbering twice -/

/-- Whether the value for the next member goes on to the same values when it is given and
when it is taken as given. -/
def Continues (flags : Bool) (next : Option Int64) : Prop :=
  flags = true → ∀ value ∈ next, IsPower value

theorem continues_start (flags : Bool) : Continues flags (some (if flags then 1 else 0)) := by
  rintro rfl value given
  obtain rfl := Option.some.inj given
  exact ⟨0, rfl⟩

theorem continues_after (flags : Bool) (value : Int64) : Continues flags (after? flags value) := by
  rintro rfl power found
  exact (nextPower?_eq_some_iff.mp found).1

theorem continues_afterAutomatic {flags : Bool} {next : Option Int64}
    (continues : Continues flags next) :
    Continues flags (next.bind (afterAutomatic? flags)) := by
  intro isFlags word member
  rcases Option.bind_eq_some_iff.mp member with ⟨value, given, found⟩
  rcases continues isFlags value given with ⟨exponent, power⟩
  rw [afterAutomatic?, if_pos isFlags, word?_eq_some_iff, power] at found
  exact ⟨exponent + 1, found.trans (pow_succ 2 exponent).symm⟩

/-- A power of two goes on to its double. -/
theorem nextPower?_of_isPower {value : Int64} (power : IsPower value) :
    nextPower? value = word? (value.toInt * 2) := by
  rcases power with ⟨exponent, power⟩
  have bound := exponent_lt power
  rcases Nat.lt_or_eq_of_le (Nat.le_of_lt_succ bound) with smaller | rfl
  · have inside : (2 : Int) ^ (exponent + 1) < 2 ^ 63 :=
      pow_lt_pow_right₀ (by decide) (Nat.succ_lt_succ smaller)
    have low : -2 ^ 63 ≤ (2 : Int) ^ (exponent + 1) :=
      le_trans (by decide) (pow_nonneg (by decide) _)
    rcases exists_word _ low inside with ⟨word, made, doubled⟩
    rw [power, ← pow_succ, made, nextPower?_eq_some_iff, doubled, power]
    refine ⟨⟨exponent + 1, doubled⟩, pow_lt_pow_right₀ (by decide) (Nat.lt_succ_self _), ?_⟩
    intro other higher
    exact pow_le_pow_right₀ (by decide) (lt_of_pow_lt higher)
  · rw [nextPower?_eq_none_iff.mpr (le_of_eq power.symm), power, word?_eq_none (by decide)]

theorem after?_of_continues {flags : Bool} {value : Int64} (continues : Continues flags (some value)) :
    after? flags value = afterAutomatic? flags value := by
  rw [after?, afterAutomatic?]
  by_cases isFlags : flags = true
  · rw [if_pos isFlags, if_pos isFlags]
    exact nextPower?_of_isPower (continues isFlags value rfl)
  · rw [if_neg isFlags, if_neg isFlags]

theorem assign_assign {flags : Bool} {next : Option Int64} (continues : Continues flags next)
    (members : List EnumMember) :
    assign flags next (assign flags next members) = assign flags next members := by
  induction members generalizing next with
  | nil => rfl
  | cons member members ih =>
      rcases member with ⟨name, value⟩
      cases value with
      | some value => simp only [assign, ih (continues_after flags value)]
      | none =>
          have rest := ih (continues_afterAutomatic continues)
          cases next with
          | none =>
              simp only [Option.bind_none] at rest
              simp only [assign, Option.bind_none, rest]
          | some value =>
              simp only [Option.bind_some] at rest
              simp only [assign, Option.bind_some, after?_of_continues continues, rest]

/-- Numbering the members of an enumeration twice is numbering them once. -/
@[simp] theorem normalized_normalized (definition : EnumDef) :
    definition.normalized.normalized = definition.normalized := by
  have numbered := assign_assign (continues_start definition.flags) definition.members
  rw [normalized, normalized, numbered]

/-! ## What numbering keeps -/

/-- Whether a numbered member is a declared one, with its name and the value it was given. -/
def Keeps (declared numbered : EnumMember) : Prop :=
  numbered.name = declared.name ∧ ∀ value ∈ declared.value, numbered.value = some value

/-- Numbering gives values to members that have none and leaves everything else. -/
theorem forall₂_keeps_assign (flags : Bool) (next : Option Int64) (members : List EnumMember) :
    List.Forall₂ Keeps members (assign flags next members) := by
  induction members generalizing next with
  | nil => exact .nil
  | cons member members ih =>
      rcases member with ⟨name, value⟩
      cases value with
      | some value =>
          have same : Keeps ⟨name, some value⟩ ⟨name, some value⟩ := ⟨rfl, fun _ given => given⟩
          exact .cons same (ih _)
      | none =>
          have free : Keeps ⟨name, none⟩ ⟨name, next⟩ := ⟨rfl, fun _ given => by cases given⟩
          exact .cons free (ih _)

/-- Whether an enumeration is a declared one after all members were numbered for which a value
is left: the same members in the same order, with the values they were given, and no value that
another numbering would add or change. -/
structure IsNumbered (declared numbered : EnumDef) : Prop where
  name : numbered.name = declared.name
  flags : numbered.flags = declared.flags
  members : List.Forall₂ Keeps declared.members numbered.members
  stable : numbered.normalized = numbered

theorem isNumbered_normalized (definition : EnumDef) :
    IsNumbered definition definition.normalized where
  name := name_normalized definition
  flags := flags_normalized definition
  members := forall₂_keeps_assign _ _ definition.members
  stable := normalized_normalized definition

@[simp] theorem map_name_assign (flags : Bool) (next : Option Int64) (members : List EnumMember) :
    (assign flags next members).map EnumMember.name = members.map EnumMember.name := by
  induction members generalizing next with
  | nil => rfl
  | cons member members ih =>
      rcases member with ⟨name, value⟩
      cases value with
      | some value => simp only [assign, List.map_cons, ih]
      | none => simp only [assign, List.map_cons, ih]

/-! ## Counting and powers of two -/

/-- Whether counting and going on by powers of two, from two next values, give the same
values to a number of members. -/
def agreesFor (counted power : Option Int64) : Nat → Prop
  | 0 => True
  | count + 1 => counted = power
      ∧ agreesFor (counted.bind (afterAutomatic? false)) (power.bind (afterAutomatic? true)) count

/-- Whether a number of members that follow a value get the same values by counting and by
powers of two. -/
def AgreesAfter (value : Int64) (count : Nat) : Prop :=
  count = 0
    ∨ (count = 1 ∧ ∃ exponent : Nat, value.toInt + 1 = 2 ^ exponent)
    ∨ (count = 2 ∧ value = 0)
    ∨ value.toInt + 1 = 2 ^ 63

/-- How many members without a value there are before the first one with a value. -/
def automaticCount (members : List EnumMember) : Nat :=
  (members.takeWhile fun member => member.value.isNone).length

/-- Whether the members after each given value get the same values by counting and by
powers of two. -/
def CountsByPowers : List EnumMember → Prop
  | [] => True
  | member :: members =>
      (∀ value ∈ member.value, AgreesAfter value (automaticCount members)) ∧ CountsByPowers members

theorem agreesFor_none (count : Nat) : agreesFor none none count := by
  induction count with
  | zero => trivial
  | succ count ih => exact ⟨rfl, ih⟩

/-- The first values after a given one agree where it is one less than a power of two. -/
theorem after?_agree_iff {value : Int64} :
    after? false value = after? true value ↔ ∃ exponent : Nat, value.toInt + 1 = 2 ^ exponent := by
  have counted : after? false value = word? (value.toInt + 1) := rfl
  have power : after? true value = nextPower? value := rfl
  rw [counted, power]
  constructor
  · intro same
    cases next : nextPower? value with
    | none =>
        refine ⟨63, ?_⟩
        rw [next] at same
        by_contra different
        have high := value.toInt_lt
        have low := value.le_toInt
        rcases exists_word (value.toInt + 1) (by omega) (by omega) with ⟨word, made, _⟩
        rw [made] at same
        cases same
    | some word =>
        rw [next, word?_eq_some_iff] at same
        rcases (nextPower?_eq_some_iff.mp next).1 with ⟨exponent, power⟩
        exact ⟨exponent, same.symm.trans power⟩
  · rintro ⟨exponent, before⟩
    have bound : exponent ≤ 63 := by
      apply Nat.le_of_lt_succ
      apply lt_of_pow_lt
      have high := value.toInt_lt
      rw [← before]
      omega
    rcases Nat.lt_or_eq_of_le bound with smaller | rfl
    · symm
      have made : word? (2 ^ exponent) = some (Int64.ofNat (Nat.pow 2 exponent)) :=
        word?_eq_some_iff.mpr (toInt_power smaller)
      rw [before, made, nextPower?_eq_some_iff, toInt_power smaller]
      refine ⟨⟨exponent, toInt_power smaller⟩, by omega, ?_⟩
      intro other higher
      omega
    · rw [before, word?_eq_none (le_refl _), nextPower?_eq_none_iff.mpr (by omega)]

/-- From the same power of two the next values agree where it is one. -/
theorem afterAutomatic?_agree_iff {value : Int64} (power : IsPower value) :
    afterAutomatic? false value = afterAutomatic? true value ↔ value = 1 := by
  have counted : afterAutomatic? false value = word? (value.toInt + 1) := rfl
  have doubled : afterAutomatic? true value = word? (value.toInt * 2) := rfl
  rw [counted, doubled]
  constructor
  · intro same
    rcases power with ⟨exponent, power⟩
    have top : (2 : Int) ^ exponent ≤ 2 ^ 62 :=
      pow_le_pow_right₀ (by decide) (Nat.le_of_lt_succ (exponent_lt power))
    have positive : (0 : Int) < 2 ^ exponent := pow_pos (by decide) _
    rcases exists_word (value.toInt + 1) (by omega) (by omega) with ⟨word, made, sum⟩
    rw [made] at same
    have product := word?_eq_some_iff.mp same.symm
    rw [← Int64.toInt_inj, Int64.toInt_one]
    omega
  · rintro rfl
    rfl

/-- The members after a given value get the same values if they are few enough. -/
theorem agreesFor_after_iff {value : Int64} {count : Nat} :
    agreesFor (after? false value) (after? true value) count ↔ AgreesAfter value count := by
  constructor
  · intro agrees
    rcases count with _ | _ | count
    · exact .inl rfl
    · exact .inr (.inl ⟨rfl, after?_agree_iff.mp agrees.1⟩)
    · rcases agrees with ⟨same, again, rest⟩
      rcases after?_agree_iff.mp same with ⟨exponent, before⟩
      rw [← same] at again rest
      cases next : after? false value with
      | none =>
          have beyond : ¬value.toInt + 1 < 2 ^ 63 := by
            intro inside
            have low := value.le_toInt
            rcases exists_word (value.toInt + 1) (by omega) inside with ⟨word, made, _⟩
            have counted : after? false value = word? (value.toInt + 1) := rfl
            rw [counted, made] at next
            cases next
          have high := value.toInt_lt
          exact .inr (.inr (.inr (by omega)))
      | some word =>
          rw [next] at again rest
          have reached : word.toInt = value.toInt + 1 := word?_eq_some_iff.mp next
          obtain rfl := (afterAutomatic?_agree_iff ⟨exponent, reached.trans before⟩).mp again
          have zero : value = 0 := by
            rw [Int64.toInt_one] at reached
            rw [← Int64.toInt_inj, Int64.toInt_zero]
            omega
          cases count with
          | zero => exact .inr (.inr (.inl ⟨rfl, zero⟩))
          | succ count =>
              -- The third member would get three by counting and four as a power.
              exact absurd rest.1 (by decide)
  · rintro (rfl | ⟨rfl, before⟩ | ⟨rfl, rfl⟩ | last)
    · trivial
    · exact ⟨after?_agree_iff.mpr before, trivial⟩
    · exact ⟨by decide, by decide, trivial⟩
    · have same := after?_agree_iff.mpr ⟨63, last⟩
      have beyond : after? false value = none := word?_eq_none (le_of_eq last.symm)
      rw [← same, beyond]
      exact agreesFor_none count

/-- The two ways of numbering give the same members exactly if those before the first given
value, and those after each one, are few enough. -/
theorem assign_eq_iff {counted power : Option Int64} {members : List EnumMember} :
    assign false counted members = assign true power members
      ↔ agreesFor counted power (automaticCount members) ∧ CountsByPowers members := by
  induction members generalizing counted power with
  | nil => exact iff_of_true rfl ⟨trivial, trivial⟩
  | cons member members ih =>
      rcases member with ⟨name, value⟩
      cases value with
      | some value =>
          have first : automaticCount (⟨name, some value⟩ :: members) = 0 := rfl
          have following : (∀ given ∈ some value, AgreesAfter given (automaticCount members))
              ↔ AgreesAfter value (automaticCount members) := by simp
          rw [first]
          simp only [assign, List.cons.injEq, true_and, ih, agreesFor_after_iff, agreesFor,
            CountsByPowers, following]
      | none =>
          have first : automaticCount (⟨name, none⟩ :: members) = automaticCount members + 1 := rfl
          rw [first]
          simp only [assign, List.cons.injEq, EnumMember.mk.injEq, true_and, ih, agreesFor,
            CountsByPowers, and_assoc, Option.not_mem_none, false_implies, implies_true]

/-- Counting and powers of two start with different values. -/
theorem agreesFor_start_iff {count : Nat} : agreesFor (some 0) (some 1) count ↔ count = 0 := by
  cases count with
  | zero => exact iff_of_true trivial rfl
  | succ count =>
      constructor
      · intro agrees
        exact absurd agrees.1 (by decide)
      · intro none
        cases none

end EnumDef

end TypedSheets
