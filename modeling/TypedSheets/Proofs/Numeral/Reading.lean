import TypedSheets.Numeral.Integer
import TypedSheets.Proofs.Text.Trim

/-!
# Reading written integers

The numeral of an integer reads as this integer, and there are no blanks in it.
-/

namespace TypedSheets

namespace Text

variable {characters : List Char}

/-- The code points of digits. -/
theorem bounds_of_isDigit {digit : Char} (isDigit : digit.isDigit = true) :
    48 ≤ digit.toNat ∧ digit.toNat ≤ 57 := by
  simpa [Char.isDigit, UInt32.le_iff_toNat_le] using isDigit

theorem isBlank_of_isDigit {digit : Char} (isDigit : digit.isDigit = true) : isBlank digit = false := by
  have bounds := bounds_of_isDigit isDigit
  simp [isBlank]
  omega

/-- A text without blanks stays as it is. -/
theorem trimChars_of_forall (visible : ∀ character ∈ characters, isBlank character = false) :
    trimChars characters = characters := by
  rcases exists_blanks_trimChars characters with ⟨front, back, before, after, split⟩
  have empty : ∀ part : List Char, part ⊆ characters →
      (∀ character ∈ part, isBlank character = true) → part = [] := by
    intro part within blank
    apply List.eq_nil_iff_forall_not_mem.mpr
    intro character member
    exact absurd (visible character (within member)) (by simp [blank character member])
  have noFront : front = [] := by
    apply empty front _ before
    intro character member
    rw [split]
    simp [member]
  have noBack : back = [] := by
    apply empty back _ after
    intro character member
    rw [split]
    simp [member]
  rw [noFront, noBack, List.nil_append, List.append_nil] at split
  exact split.symm

end Text

namespace Numeral

theorem natural?_toDigits (value : Nat) : natural? (Nat.toDigits 10 value) = some value := by
  have digits : (Nat.toDigits 10 value).all Char.isDigit = true := by
    rw [List.all_eq_true]
    intro digit member
    exact Nat.isDigit_of_mem_toDigits (by decide) (by decide) member
  rw [natural?, if_pos ⟨Nat.toDigits_ne_nil, digits⟩, Nat.ofDigitChars_ten_toDigits]

/-- A numeral with a digit at its beginning has no sign. -/
theorem integer?_of_isDigit {digit : Char} (isDigit : digit.isDigit = true) (allowMinus : Bool)
    (digits : List Char) :
    integer? allowMinus (digit :: digits) = (natural? (digit :: digits)).map Int.ofNat := by
  rw [integer?]
  · intro _ same
    rw [(List.cons.inj same).1] at isDigit
    simp at isDigit
  · intro _ same
    rw [(List.cons.inj same).1] at isDigit
    simp at isDigit

theorem integer?_writeInt (value : Int) : integer? true (writeInt value) = some value := by
  rw [writeInt]
  by_cases below : value < 0
  · have restored : -(value.natAbs : Int) = value := by omega
    simp only [if_pos below, integer?, if_true, natural?_toDigits]
    exact congrArg some restored
  · have restored : (value.natAbs : Int) = value := by omega
    rcases exists_digit_toDigits value.natAbs with ⟨digit, digits, numeral, isDigit⟩
    rw [if_neg below, numeral, integer?_of_isDigit isDigit, ← numeral, natural?_toDigits]
    exact congrArg some restored

theorem isBlank_of_mem_writeInt {value : Int} {character : Char}
    (member : character ∈ writeInt value) : Text.isBlank character = false := by
  have digit : character ∈ Nat.toDigits 10 value.natAbs → Text.isBlank character = false := by
    intro inside
    exact Text.isBlank_of_isDigit (Nat.isDigit_of_mem_toDigits (by decide) (by decide) inside)
  rw [writeInt] at member
  split at member
  · rcases List.mem_cons.mp member with rfl | inside
    · decide
    · exact digit inside
  · exact digit member

/-- The numeral of a word reads as the word, whatever is done about blanks. -/
theorem read?_wordText (value : Int64) :
    Range.signed64.read? (Text.trimChars (wordText value).toList) = some value.toInt := by
  have numeral : Text.trimChars (wordText value).toList = writeInt value.toInt := by
    rw [wordText, String.toList_ofList]
    exact Text.trimChars_of_forall fun _ member => isBlank_of_mem_writeInt member
  have signed : decide (Range.signed64.low < 0) = true := rfl
  have inside := Range.holds_signed64_toInt value
  rw [numeral, Range.read?, signed, integer?_writeInt]
  simp [Option.filter, inside]

end Numeral

end TypedSheets
