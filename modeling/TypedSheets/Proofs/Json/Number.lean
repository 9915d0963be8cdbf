import Mathlib.Data.List.TakeWhile
import TypedSheets.Json.Number

/-!
# Numerals in a longer text

A numeral is read alike whether the text ends with it or goes on with something that no
numeral contains. The numeral of an integer of at most 64 bits is read as this integer. A
double is read in two roundings, so not every double comes back from its own numeral:
`ReadsBack` says that it does.
-/

namespace TypedSheets

namespace JsonNumber

open Numeral

/-- Whether a number is what its own numeral is read as. -/
def ReadsBack (number : JsonNumber) : Prop :=
  read? number.write = some (some number, [])

instance (number : JsonNumber) : Decidable number.ReadsBack :=
  inferInstanceAs (Decidable (read? number.write = some (some number, [])))

/-- Whether characters do not go on with a numeral. -/
def Stops (rest : List Char) : Prop :=
  ∀ next ∈ rest.head?, next.isDigit = false ∧ next ≠ '.' ∧ next ≠ 'e' ∧ next ≠ 'E'

theorem stops_nil : Stops [] := by
  intro next here
  simp at here

theorem stops_cons {next : Char} {rest : List Char}
    (other : next.isDigit = false ∧ next ≠ '.' ∧ next ≠ 'e' ∧ next ≠ 'E') : Stops (next :: rest) := by
  intro first here
  obtain rfl := Option.some.inj here
  exact other

/-! ## Digits before other characters -/

variable {characters rest left : List Char}

/-- The digits at the front of a text and what follows them stay what they are when the
text goes on. -/
theorem digits_append (stops : Stops rest) :
    (characters ++ rest).takeWhile Char.isDigit = characters.takeWhile Char.isDigit
      ∧ (characters ++ rest).dropWhile Char.isDigit = characters.dropWhile Char.isDigit ++ rest := by
  induction characters with
  | nil =>
      cases rest with
      | nil => exact ⟨rfl, rfl⟩
      | cons next rest => simp [(stops next rfl).1]
  | cons character characters ih => by_cases digit : character.isDigit <;> simp [digit, ih]

theorem readFraction?_append {fraction : Option (List Char)}
    (read : readFraction? characters = some (fraction, left)) (stops : Stops rest) :
    readFraction? (characters ++ rest) = some (fraction, left ++ rest) := by
  cases characters with
  | nil =>
      obtain ⟨rfl, rfl⟩ := Prod.mk.inj (Option.some.inj read)
      cases rest with
      | nil => rfl
      | cons next rest => simp [readFraction?, (stops next rfl).2.1]
  | cons character characters =>
      by_cases point : character = '.'
      · subst point
        simp only [readFraction?, List.cons_append, digits_append stops] at read ⊢
        split at read
        · simp at read
        · next some =>
            obtain ⟨rfl, rfl⟩ := Prod.mk.inj (Option.some.inj read)
            rw [if_neg some]
      · have plain : ∀ after : List Char, readFraction? (character :: after)
            = some (none, character :: after) := by
          intro after
          simp [readFraction?, point]
        rw [plain] at read
        obtain ⟨rfl, rfl⟩ := Prod.mk.inj (Option.some.inj read)
        exact plain (characters ++ rest)

/-- The sign of an exponent, and what follows it. -/
def exponentSign : List Char → Bool × List Char
  | '+' :: rest => (false, rest)
  | '-' :: rest => (true, rest)
  | rest => (false, rest)

theorem exponentSign_append (some : characters ≠ []) :
    exponentSign (characters ++ rest)
      = ((exponentSign characters).1, (exponentSign characters).2 ++ rest) := by
  cases characters with
  | nil => exact absurd rfl some
  | cons sign characters =>
      by_cases plus : sign = '+'
      · simp [exponentSign, plus]
      · by_cases minus : sign = '-' <;> simp [exponentSign, plus, minus]

theorem readExponent?_of_marked {mark : Char} (marked : mark = 'e' ∨ mark = 'E')
    (characters : List Char) :
    readExponent? (mark :: characters)
      = let (negative, rest) := exponentSign characters
        let digits := rest.takeWhile Char.isDigit
        if digits = [] then none
        else
          let size : Int := Nat.ofDigitChars 10 digits 0
          some (some (if negative then -size else size), rest.dropWhile Char.isDigit) := by
  simp only [readExponent?, if_pos marked]
  rfl

theorem readExponent?_append {exponent : Option Int}
    (read : readExponent? characters = some (exponent, left)) (stops : Stops rest) :
    readExponent? (characters ++ rest) = some (exponent, left ++ rest) := by
  cases characters with
  | nil =>
      obtain ⟨rfl, rfl⟩ := Prod.mk.inj (Option.some.inj read)
      cases rest with
      | nil => rfl
      | cons next rest => simp [readExponent?, (stops next rfl).2.2]
  | cons mark characters =>
      by_cases marked : mark = 'e' ∨ mark = 'E'
      · rw [List.cons_append, readExponent?_of_marked marked]
        rw [readExponent?_of_marked marked] at read
        by_cases none : characters = []
        · simp [none, exponentSign] at read
        · rw [exponentSign_append none]
          simp only [digits_append stops] at read ⊢
          split at read
          · simp at read
          · next some =>
              obtain ⟨rfl, rfl⟩ := Prod.mk.inj (Option.some.inj read)
              rw [if_neg some]
      · simp only [readExponent?, List.cons_append, marked, ↓reduceIte] at read ⊢
        obtain ⟨rfl, rfl⟩ := Prod.mk.inj (Option.some.inj read)
        rfl

theorem readMagnitude?_append {negative : Bool} {number : Option JsonNumber}
    (read : readMagnitude? negative characters = some (number, left)) (stops : Stops rest) :
    readMagnitude? negative (characters ++ rest) = some (number, left ++ rest) := by
  simp only [readMagnitude?, digits_append stops] at read ⊢
  split at read
  · simp at read
  · next whole =>
      rw [if_neg whole]
      rcases Option.bind_eq_some_iff.mp read with ⟨⟨fraction, afterFraction⟩, fractional, read⟩
      rcases Option.bind_eq_some_iff.mp read with ⟨⟨exponent, afterExponent⟩, exponential, read⟩
      obtain ⟨rfl, rfl⟩ := Prod.mk.inj (Option.some.inj read)
      simp [readFraction?_append fractional stops, readExponent?_append exponential stops]

/-- What a numeral is read as does not depend on what follows it. -/
theorem read?_append {number : Option JsonNumber} (read : read? characters = some (number, left))
    (stops : Stops rest) : read? (characters ++ rest) = some (number, left ++ rest) := by
  cases characters with
  | nil => simp [read?, readMagnitude?] at read
  | cons sign characters =>
      by_cases minus : sign = '-'
      · subst minus
        exact readMagnitude?_append read stops
      · have unsigned : ∀ after : List Char, read? (sign :: after)
            = readMagnitude? false (sign :: after) := by
          intro after
          simp [read?, minus]
        rw [unsigned] at read
        rw [List.cons_append, unsigned]
        exact readMagnitude?_append read stops

/-- A numeral begins with a sign or a digit. -/
theorem exists_cons_of_read? {number : Option JsonNumber}
    (read : read? characters = some (number, left)) :
    ∃ first others, characters = first :: others ∧ (first = '-' ∨ first.isDigit = true) := by
  cases characters with
  | nil => simp [read?, readMagnitude?] at read
  | cons first others =>
      refine ⟨first, others, rfl, ?_⟩
      by_cases minus : first = '-'
      · exact .inl minus
      · cases digit : first.isDigit with
        | true => exact .inr rfl
        | false => simp [read?, minus, readMagnitude?, digit] at read

/-! ## Integers -/

theorem le_ofDigitChars (digits : List Char) (start : Nat) :
    start ≤ Nat.ofDigitChars 10 digits start := by
  rw [Nat.ofDigitChars_eq_ofDigitChars_zero]
  have power : 1 * start ≤ 10 ^ digits.length * start :=
    Nat.mul_le_mul_right start (Nat.one_le_pow _ _ (by decide))
  omega

/-- Digits whose number fits in a word are absorbed without a rest. -/
theorem absorb_eq {digits : List Char} {significand : Nat}
    (fits : Nat.ofDigitChars 10 digits significand ≤ wordLimit) :
    absorb significand digits = (Nat.ofDigitChars 10 digits significand, []) := by
  induction digits generalizing significand with
  | nil => rfl
  | cons digit digits ih =>
      rw [Nat.ofDigitChars_cons] at fits ⊢
      have next := Nat.le_trans (le_ofDigitChars digits _) fits
      simp only [absorb, if_pos next, ih fits]

/-- Only the numeral of zero begins with a zero. -/
theorem head?_toDigits_ne {value : Nat} (positive : 0 < value) :
    (Nat.toDigits 10 value).head? ≠ some '0' := by
  induction value using Nat.strongRecOn with
  | ind value ih =>
      by_cases single : value < 10
      · simp [Nat.toDigits_of_lt_base single, Nat.ne_of_gt positive]
      · have front := ih (value / 10) (by omega) (by omega)
        rw [Nat.toDigits_of_base_le (by decide) (Nat.le_of_not_lt single), List.head?_append]
        rcases exists_digit_toDigits (value / 10) with ⟨digit, digits, numeral, _⟩
        rw [numeral] at front ⊢
        exact front

theorem readMagnitude?_toDigits (negative : Bool) (value : Nat) :
    readMagnitude? negative (Nat.toDigits 10 value)
      = some (ofParts? negative (Nat.toDigits 10 value) none none, []) := by
  have digits : ∀ digit ∈ Nat.toDigits 10 value, digit.isDigit = true := fun digit member =>
    Nat.isDigit_of_mem_toDigits (by decide) (by decide) member
  have whole : (Nat.toDigits 10 value).takeWhile Char.isDigit = Nat.toDigits 10 value :=
    List.takeWhile_eq_self_iff.mpr digits
  have nothing : (Nat.toDigits 10 value).dropWhile Char.isDigit = [] :=
    List.dropWhile_eq_nil_iff.mpr digits
  have proper : ¬(Nat.toDigits 10 value = []
      ∨ (Nat.toDigits 10 value).head? = some '0' ∧ (Nat.toDigits 10 value).length ≠ 1) := by
    rintro (none | ⟨zero, several⟩)
    · exact Nat.toDigits_ne_nil none
    · rcases Nat.eq_zero_or_pos value with rfl | positive
      · exact several rfl
      · exact head?_toDigits_ne positive zero
  simp only [readMagnitude?, whole, nothing, if_neg proper]
  rfl

theorem absorb_toDigits {value : Nat} (fits : value ≤ wordLimit) :
    absorb 0 (Nat.toDigits 10 value) = (value, []) := by
  have number : Nat.ofDigitChars 10 (Nat.toDigits 10 value) 0 = value := Nat.ofDigitChars_ten_toDigits
  rw [absorb_eq (by rw [number]; exact fits), number]

/-- An integer of at most 64 bits is what its numeral is read as. -/
theorem readsBack_integer {value : Int} (low : -(negativeLimit : Int) ≤ value)
    (high : value ≤ wordLimit) : ReadsBack (.integer value) := by
  simp only [ReadsBack, write, writeInt]
  by_cases below : value < 0
  · have fits : value.natAbs ≤ wordLimit := by
      simp only [negativeLimit, wordLimit] at low ⊢
      omega
    have signed : ¬(value.natAbs = 0 ∨ negativeLimit < value.natAbs) := by omega
    have restored : -(value.natAbs : Int) = value := by omega
    simp only [if_pos below, read?, readMagnitude?_toDigits, ofParts?, absorb_toDigits fits]
    rw [if_neg signed, restored]
    rfl
  · have fits : value.natAbs ≤ wordLimit := by omega
    have restored : (value.natAbs : Int) = value := by omega
    have unsigned : read? (Nat.toDigits 10 value.natAbs)
        = readMagnitude? false (Nat.toDigits 10 value.natAbs) := by
      rcases exists_digit_toDigits value.natAbs with ⟨digit, digits, numeral, isDigit⟩
      have notMinus : digit ≠ '-' := by
        rintro rfl
        simp at isDigit
      rw [numeral]
      simp [read?, notMinus]
    simp only [if_neg below, unsigned, readMagnitude?_toDigits, ofParts?, absorb_toDigits fits]
    rw [restored]
    rfl

end JsonNumber

end TypedSheets
