import Mathlib
import TypedSheets.Proofs.Conversion.Elements
import TypedSheets.Proofs.Text.Split

/-!
# The width of converted integers

An integer type takes the numerals in its range and the members of enumerations that are
written with their type. The value of a member is taken as it is, so the integers of a cell
are within the range of its type exactly if all members that it names are.
-/

namespace TypedSheets

/-- Whether every integer in a value, inside of arrays too, lies in a range. -/
def Value.Fits (range : Numeral.Range) (value : Value) : Prop :=
  ∀ number, .int number ∈ value.leaves → range.holds number.toInt = true

/-! ## Numerals and members exclude each other -/

namespace Numeral

theorem dot_not_mem_of_natural? {digits : List Char} {value : Nat}
    (read : natural? digits = some value) : '.' ∉ digits := by
  intro member
  simp only [natural?] at read
  split at read
  · next decimal =>
      have digit := List.all_eq_true.mp decimal.2 '.' member
      exact absurd digit (by decide)
  · cases read

/-- A numeral of an integer has no point. -/
theorem dot_not_mem_of_integer? {allowMinus : Bool} {numeral : List Char} {value : Int}
    (read : integer? allowMinus numeral = some value) : '.' ∉ numeral := by
  unfold integer? at read
  split at read
  · rcases Option.map_eq_some_iff.mp read with ⟨_, digits, _⟩
    simpa using dot_not_mem_of_natural? digits
  · split at read
    · rcases Option.map_eq_some_iff.mp read with ⟨_, lifted, _⟩
      rcases Option.bind_eq_some_iff.mp lifted with ⟨_, digits, _⟩
      simpa using dot_not_mem_of_natural? digits
    · cases read
  · rcases Option.map_eq_some_iff.mp read with ⟨_, digits, _⟩
    exact dot_not_mem_of_natural? digits

end Numeral

/-- A text that names a type and members of it has a point. -/
theorem QualifiedMember.dot_mem_of_read? {text : String} {qualified : QualifiedMember}
    (read : QualifiedMember.read? text = some qualified) : '.' ∈ Text.trimChars text.toList := by
  rw [QualifiedMember.read?] at read
  split at read
  · cases read
  · next typeName member split =>
      rw [Text.eq_append_of_splitLast? split]
      simp

namespace Registry

variable {registry : Registry} {type : ValueType} {range : Numeral.Range} {text : String}
  {raw : List Char} {value : Value}

/-- A text with a point is no numeral of an integer. -/
theorem integer?_eq_none_of_dot (dotted : '.' ∈ Text.trimChars text.toList) :
    Literal.integer? type text = none := by
  rw [Option.eq_none_iff_forall_ne_some]
  intro number numeral
  rcases Option.bind_eq_some_iff.mp numeral with ⟨range, _, numeral⟩
  rcases Option.map_eq_some_iff.mp numeral with ⟨value, numeral, _⟩
  have plain := (Option.filter_eq_some_iff.mp numeral).1
  exact Numeral.dot_not_mem_of_integer? plain dotted

/-- A member that is written with its type is no numeral. -/
theorem integer?_eq_none_of_parseQualified? {member : String × Int64}
    (named : registry.parseQualified? text = some member) : Literal.integer? type text = none := by
  rcases Option.bind_eq_some_iff.mp named with ⟨qualified, read, _⟩
  exact integer?_eq_none_of_dot (QualifiedMember.dot_mem_of_read? read)

/-- The ranges of integer types hold words only. -/
theorem toInt_ofInt_of_holds {value : Int} (ranged : type.integerRange? = some range)
    (inside : range.holds value = true) : (Int64.ofInt value).toInt = value := by
  have wide : -2 ^ 63 ≤ range.low ∧ range.high < 2 ^ 63 := by
    cases type with
    | byte | short | int | long =>
        obtain rfl := Option.some.inj ranged
        decide
    | _ => cases ranged
  rw [Numeral.Range.holds_iff] at inside
  exact Int64.toInt_ofInt_of_le (wide.1.trans inside.1) (Int.lt_of_le_of_lt inside.2 wide.2)

/-- An integer type takes numerals and members that are written with their type. -/
theorem convertSimple?_of_integerRange? (ranged : type.integerRange? = some range) :
    registry.convertSimple? type raw
      = (Literal.integer? type (String.ofList raw)).or
        ((registry.parseQualified? (String.ofList raw)).map fun member => .int member.2) := by
  cases type with
  | byte | short | int | long =>
      simp only [convertSimple?]
      split
      · next found => rw [found]; rfl
      · next absent => rw [absent]; rfl
  | _ => cases ranged

/-- An integer lies in the range of its type unless it was named as a member beyond it. -/
theorem holds_convertSimple?_iff (ranged : type.integerRange? = some range)
    (converted : registry.convertSimple? type raw = some value) :
    (∀ number, value = .int number → range.holds number.toInt = true)
      ↔ ∀ member, registry.parseQualified? (String.ofList raw) = some member →
        range.holds member.2.toInt = true := by
  rw [convertSimple?_of_integerRange? ranged] at converted
  -- No text is a numeral and a member at once, so the value has only one of the two origins.
  cases named : registry.parseQualified? (String.ofList raw) with
  | some member =>
      rw [integer?_eq_none_of_parseQualified? named, named] at converted
      obtain rfl := Option.some.inj converted
      simp
  | none =>
      rw [named, Option.map_none, Option.or_none] at converted
      rcases Option.bind_eq_some_iff.mp converted with ⟨_, same, numeral⟩
      obtain rfl := Option.some.inj (ranged.symm.trans same)
      rcases Option.map_eq_some_iff.mp numeral with ⟨number, read, rfl⟩
      have inside := Numeral.Range.holds_of_read? read
      constructor
      · rintro _ _ ⟨⟩
      · rintro _ _ ⟨⟩
        rw [toInt_ofInt_of_holds ranged inside]
        exact inside

/-- The integers of a converted cell lie in the range of its type exactly if every member of
an enumeration that it names has a value in that range. Those of the widest type always do. -/
theorem fits_convert?_iff {cell : String} (ranged : type.scalar.integerRange? = some range)
    (converted : registry.convert? type cell = some value) :
    (value.Fits range
        ↔ ∀ text ∈ Literal.scalarTexts type cell.toList, ∀ member,
          registry.parseQualified? (String.ofList text) = some member →
          range.holds member.2.toInt = true)
      ∧ (type.scalar = .long → value.Fits range) := by
  have each : (∀ leaf ∈ value.leaves, ∀ number, leaf = .int number → range.holds number.toInt = true)
      ↔ ∀ text ∈ Literal.scalarTexts type cell.toList, ∀ member,
        registry.parseQualified? (String.ofList text) = some member →
        range.holds member.2.toInt = true := by
    apply forall_mem_iff_of_forall₂ (forall₂_leaves converted)
    rintro text leaf (simple | ⟨isText, _⟩)
    · exact holds_convertSimple?_iff ranged simple
    · rw [isText] at ranged
      cases ranged
  constructor
  · rw [← each]
    constructor
    · rintro fits leaf member number rfl
      exact fits number member
    · intro fits number member
      exact fits _ member number rfl
  · intro isLong number _
    rw [isLong] at ranged
    obtain rfl := Option.some.inj ranged
    rw [Numeral.Range.holds_iff]
    exact ⟨Int64.le_toInt number, Int.le_of_lt_add_one (Int64.toInt_lt number)⟩

/-- A registry with an enumeration of two levels, of which one is too great for a byte. -/
def sampleLevels : Registry :=
  Registry.empty.registerEnum ⟨"Level", false, [⟨"Low", some 7⟩, ⟨"High", some 300⟩]⟩

/-- Numerals and members within the range are within it inside of arrays too. -/
theorem sampleLevels_fit :
    (ValueType.array .byte).scalar.integerRange? = some .unsigned8
      ∧ sampleLevels.convert? (.array .byte) "[255, Level.Low]" = some (.array [.int 255, .int 7])
      ∧ (Value.array [.int 255, .int 7]).Fits .unsigned8 := by
  have evaluated : sampleLevels.convert? (.array .byte) "[255, Level.Low]"
        = some (.array [.int 255, .int 7])
      ∧ Literal.scalarTexts (.array .byte) "[255, Level.Low]".toList
        = ["255".toList, "Level.Low".toList]
      ∧ sampleLevels.parseQualified? (String.ofList "255".toList) = none
      ∧ sampleLevels.parseQualified? (String.ofList "Level.Low".toList) = some ("Level", 7)
      ∧ Numeral.Range.unsigned8.holds (7 : Int64).toInt = true :=
    ⟨by cbv, by cbv, by cbv, by cbv, by cbv⟩
  rcases evaluated with ⟨converted, texts, numeral, named, inside⟩
  refine ⟨rfl, converted, (fits_convert?_iff rfl converted).1.mpr ?_⟩
  rw [texts]
  intro text listed member found
  simp only [List.mem_cons, List.not_mem_nil, or_false] at listed
  rcases listed with rfl | rfl
  · rw [numeral] at found
    cases found
  · rw [named] at found
    obtain rfl := Option.some.inj found
    exact inside

/-- A member beyond the range of a byte is taken as it is. -/
theorem highLevel_beyond_byte :
    sampleLevels.resolve? "byte" = some .byte
      ∧ sampleLevels.convert? .byte "300" = none
      ∧ sampleLevels.convert? .byte "Level.High" = some (.int 300)
      ∧ ¬(Value.int 300).Fits .unsigned8 := by
  refine ⟨by cbv, by cbv, by cbv, ?_⟩
  intro fits
  have within := fits 300 List.mem_cons_self
  have beyond : Numeral.Range.unsigned8.holds (300 : Int64).toInt = false := by cbv
  rw [beyond] at within
  cases within

end Registry

end TypedSheets
