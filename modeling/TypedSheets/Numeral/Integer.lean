/-!
# Integers in decimal

Reading a decimal integer within a range, writing one, and the arithmetic of 64-bit
words that notices when a result leaves their range.
-/

namespace TypedSheets.Numeral

/-- The number a nonempty run of decimal digits denotes. -/
def natural? (digits : List Char) : Option Nat :=
  if digits ≠ [] ∧ digits.all Char.isDigit then some (Nat.ofDigitChars 10 digits 0) else none

/-- The integer a numeral denotes: digits after an optional plus sign, or after a
minus sign where one is allowed. -/
def integer? (allowMinus : Bool) : List Char → Option Int
  | '+' :: digits => (natural? digits).map Int.ofNat
  | '-' :: digits => if allowMinus then (natural? digits).map fun value => -(value : Int) else none
  | digits => (natural? digits).map Int.ofNat

/-- The integers from `low` to `high`. -/
structure Range where
  low : Int
  high : Int
deriving DecidableEq

namespace Range

/-- Whether an integer lies in the range. -/
def holds (range : Range) (value : Int) : Bool :=
  decide (range.low ≤ value) && decide (value ≤ range.high)

def unsigned8 : Range := ⟨0, 255⟩
def signed16 : Range := ⟨-32768, 32767⟩
def signed32 : Range := ⟨-2147483648, 2147483647⟩
def signed64 : Range := ⟨-9223372036854775808, 9223372036854775807⟩
def unsigned64 : Range := ⟨0, 18446744073709551615⟩

/-- Read a numeral whose value lies in the range. A range without negative numbers
takes no minus sign, not even before a zero. -/
def read? (range : Range) (numeral : List Char) : Option Int :=
  (integer? (decide (range.low < 0)) numeral).filter range.holds

@[simp] theorem holds_iff (range : Range) (value : Int) :
    range.holds value = true ↔ range.low ≤ value ∧ value ≤ range.high := by
  simp [holds]

theorem holds_of_read? {range : Range} {numeral : List Char} {value : Int}
    (read : range.read? numeral = some value) : range.holds value = true := by
  simp only [read?, Option.filter_eq_some_iff] at read
  exact read.2

/-- Every 64-bit word lies in the range of such words. -/
@[simp] theorem holds_signed64_toInt (word : Int64) : signed64.holds word.toInt = true := by
  rw [holds_iff]
  exact ⟨word.le_toInt, Int.le_of_lt_add_one word.toInt_lt⟩

end Range

/-- The 64-bit word of an integer in its range. -/
def word? (value : Int) : Option Int64 :=
  if Range.signed64.holds value then some (Int64.ofInt value) else none

/-- The decimal numeral of an integer. -/
def writeInt (value : Int) : List Char :=
  if value < 0 then '-' :: Nat.toDigits 10 value.natAbs else Nat.toDigits 10 value.natAbs

/-- A numeral begins with a digit. -/
theorem exists_digit_toDigits (value : Nat) :
    ∃ digit digits, Nat.toDigits 10 value = digit :: digits ∧ digit.isDigit = true := by
  cases numeral : Nat.toDigits 10 value with
  | nil => exact absurd numeral Nat.toDigits_ne_nil
  | cons digit digits =>
      have member : digit ∈ Nat.toDigits 10 value := by
        rw [numeral]
        exact List.mem_cons_self
      exact ⟨digit, digits, rfl, Nat.isDigit_of_mem_toDigits (by decide) (by decide) member⟩

/-- The decimal numeral of a 64-bit word. -/
def wordText (value : Int64) : String :=
  String.ofList (writeInt value.toInt)

/-- The numeral of a word is the usual one. -/
theorem wordText_eq (value : Int64) : wordText value = toString value.toInt := by
  rw [wordText, writeInt, Int.toString_eq_repr]
  cases value.toInt with
  | ofNat count =>
      have whole : ¬Int.ofNat count < 0 := Int.not_lt.mpr (Int.natCast_nonneg count)
      rw [if_neg whole]
      exact Nat.repr_eq_ofList_toDigits.symm
  | negSucc count =>
      rw [if_pos (Int.negSucc_lt_zero count), Int.repr, Nat.repr_eq_ofList_toDigits]
      exact String.ofList_cons
end TypedSheets.Numeral
