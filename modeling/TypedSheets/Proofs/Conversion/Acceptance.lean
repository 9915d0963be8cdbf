import TypedSheets.Proofs.Conversion.Members
import TypedSheets.Proofs.Numeral.Reading

/-!
# Members that are written as numbers

A cell of an enumeration may also hold the number that its members stand for. The number of a
plain member is accepted, and so is that of flags, since a word that is made up of the bits of
flags has no bit beyond those of all flags. The exception are flags with a negative value: their
names are read, but no negative number is accepted, so that the words they make up are not.
-/

namespace TypedSheets

/-! ## Signs and bits of words -/

namespace Numeral

theorem nonneg_iff_msb {word : Int64} : 0 ≤ word ↔ word.toBitVec.msb = false := by
  rw [BitVec.msb_eq_toInt, decide_eq_false_iff_not, Int64.le_iff_toInt_le, Int64.toInt_zero,
    Int.not_lt]
  rfl

theorem nonneg_or_iff {first second : Int64} : 0 ≤ first ||| second ↔ 0 ≤ first ∧ 0 ≤ second := by
  simp only [nonneg_iff_msb, Int64.toBitVec_or, BitVec.msb_or, Bool.or_eq_false_iff]

/-- A word that adds no bit to a mask has no bit beyond it. -/
theorem and_not_of_or_eq {word mask : Int64} (within : word ||| mask = mask) :
    word &&& ~~~mask = 0 := by
  have both : ~~~(word ||| mask) = ~~~word &&& ~~~mask := by
    apply Int64.toBitVec_inj.mp
    exact BitVec.not_or
  rw [← within, both, ← Int64.and_assoc, Int64.and_not_self, Int64.zero_and]

end Numeral

namespace EnumDef

variable {definition : EnumDef} {value : Int64} {name text : String}

theorem nonneg_allBits_iff {values : List Int64} : 0 ≤ allBits values ↔ ∀ word ∈ values, 0 ≤ word := by
  induction values with
  | nil => simp [allBits]
  | cons first values ih =>
      have unfolded : allBits (first :: values) = first ||| allBits values := rfl
      rw [unfolded, Numeral.nonneg_or_iff, ih, List.forall_mem_cons]

theorem mask_eq_allBits (definition : EnumDef) :
    definition.mask = allBits (definition.members.filterMap EnumMember.value) := by
  rw [mask, allBits, List.foldl_eq_foldr]

theorem exists_member_of_memberValue? (found : definition.memberValue? name = some value) :
    ∃ member ∈ definition.members, member.value = some value := by
  rcases Option.bind_eq_some_iff.mp found with ⟨member, listed, held⟩
  exact ⟨member, List.mem_of_find?_eq_some listed, held⟩

/-- The bits of some members are among those of all members. -/
theorem allBits_or_mask (definition : EnumDef) (names : List String) :
    allBits (names.filterMap definition.memberValue?) ||| definition.mask = definition.mask := by
  rw [mask_eq_allBits]
  apply allBits_or_of_forall
  intro word member
  rcases List.mem_filterMap.mp member with ⟨name, _, found⟩
  rcases exists_member_of_memberValue? found with ⟨holder, listed, held⟩
  exact or_allBits_of_mem (List.mem_filterMap.mpr ⟨holder, listed, held⟩)

/-- Whether a text names a flag with a negative value. -/
def NamesNegative (definition : EnumDef) (text : String) : Prop :=
  definition.flags = true
    ∧ ∃ segment ∈ segments text, ∃ word, definition.memberValue? segment = some word ∧ word < 0

/-- The bits of flags are accepted if none of the flags is negative. -/
theorem acceptsValue_allBits_iff (flags : definition.flags = true) (names : List String) :
    definition.acceptsValue (allBits (names.filterMap definition.memberValue?)) = true
      ↔ ∀ name ∈ names, ∀ word, definition.memberValue? name = some word → 0 ≤ word := by
  have within := Numeral.and_not_of_or_eq (allBits_or_mask definition names)
  rw [acceptsValue, if_pos flags, within, beq_self_eq_true, Bool.and_true, decide_eq_true_eq,
    nonneg_allBits_iff, List.forall_mem_filterMap]

/-- The word of a text is accepted unless the text names a flag with a negative value. -/
theorem acceptsValue_iff (parsed : definition.parse text = .ok value) :
    definition.acceptsValue value = true ↔ ¬definition.NamesNegative text := by
  rw [parse] at parsed
  cases flags : definition.flags with
  | false =>
      rw [if_neg (by simp [flags])] at parsed
      cases found : definition.memberValue? (Text.trim text) with
      | none =>
          rw [member_of_none found] at parsed
          cases parsed
      | some word =>
          rw [member_of_some found] at parsed
          obtain rfl := Except.ok.inj parsed
          rcases exists_member_of_memberValue? found with ⟨member, listed, held⟩
          refine iff_of_true ?_ ?_
          · rw [acceptsValue, if_neg (by simp [flags]), List.any_eq_true]
            exact ⟨member, listed, by simp [held]⟩
          · rintro ⟨isFlags, _⟩
            rw [flags] at isFlags
            cases isFlags
  | true =>
      rw [if_pos flags] at parsed
      rcases combine_ok_iff.mp parsed with ⟨_, rfl⟩
      rw [Int64.zero_or, acceptsValue_allBits_iff flags, NamesNegative]
      simp [flags, Int64.not_lt]

end EnumDef

namespace Registry

variable {registry : Registry} {definition : EnumDef} {name text : String} {value : Int64}

/-- A cell that holds a number is read as member text, and else as the number. -/
theorem convertCell?_wordText (found : registry.lookupEnum? name = some definition) (value : Int64) :
    registry.convertCell? (.enum name) (Numeral.wordText value)
      = (registry.convert? (.enum name) (Numeral.wordText value)).or
        (if definition.acceptsValue value then some (.enum name value) else none) := by
  rw [convertCell?]
  cases registry.convert? (.enum name) (Numeral.wordText value) with
  | some other => rfl
  | none =>
      simp only [Numeral.read?_wordText, Option.map_some, Int64.ofInt_toInt, found, Option.none_or]
      rfl

/-- The word that member text stands for is accepted, and a cell with its number is converted,
unless the text names a flag with a negative value. Then the cell is converted only if its
number is the name of a member itself. -/
theorem parsed_accepted_iff (found : registry.lookupEnum? name = some definition)
    (parsed : registry.parseEnum name text = .ok value) :
    (definition.acceptsValue value = true ↔ ¬definition.NamesNegative text)
      ∧ ((registry.convertCell? (.enum name) (Numeral.wordText value)).isSome = true
        ↔ ¬definition.NamesNegative text
          ∨ (registry.convert? (.enum name) (Numeral.wordText value)).isSome = true) := by
  rw [parseEnum, found] at parsed
  have accepted := EnumDef.acceptsValue_iff parsed
  refine ⟨accepted, ?_⟩
  rw [convertCell?_wordText found, Option.isSome_or, Bool.or_eq_true, ← accepted, or_comm]
  cases definition.acceptsValue value <;> simp

/-- Flags of several bits and a negative one. -/
def sampleMarkDef : EnumDef :=
  ⟨"Marks", true, [⟨"None", some 0⟩, ⟨"Low", some 3⟩, ⟨"High", some 12⟩, ⟨"All", some (-1)⟩]⟩

/-- A registry with these flags. -/
def sampleMarks : Registry :=
  Registry.empty.registerEnum sampleMarkDef

/-- Flags that are not negative are accepted as the number of their bits. -/
theorem sampleMarks_accepted :
    sampleMarks.lookupEnum? "Marks" = some sampleMarkDef
      ∧ sampleMarks.parseEnum "Marks" "Low | None | High" = .ok 15
      ∧ sampleMarkDef.acceptsValue 15 = true
      ∧ (sampleMarks.convertCell? (.enum "Marks") (Numeral.wordText 15)).isSome = true := by
  have found : sampleMarks.lookupEnum? "Marks" = some sampleMarkDef := by cbv
  have parsed : sampleMarks.parseEnum "Marks" "Low | None | High" = .ok 15 := by cbv
  have plain : ¬sampleMarkDef.NamesNegative "Low | None | High" := by
    have segments : EnumDef.segments "Low | None | High" = ["Low", "None", "High"] := by cbv
    have low : sampleMarkDef.memberValue? "Low" = some 3 := by cbv
    have none : sampleMarkDef.memberValue? "None" = some 0 := by cbv
    have high : sampleMarkDef.memberValue? "High" = some 12 := by cbv
    rintro ⟨_, segment, listed, word, held, negative⟩
    rw [segments] at listed
    have words : word = 3 ∨ word = 0 ∨ word = 12 := by
      simp only [List.mem_cons, List.not_mem_nil, or_false] at listed
      rcases listed with rfl | rfl | rfl
      · exact .inl (Option.some.inj (held.symm.trans low))
      · exact .inr (.inl (Option.some.inj (held.symm.trans none)))
      · exact .inr (.inr (Option.some.inj (held.symm.trans high)))
    rcases words with rfl | rfl | rfl <;> exact absurd negative (by decide)
  rcases parsed_accepted_iff found parsed with ⟨accepted, converted⟩
  exact ⟨found, parsed, accepted.mpr plain, converted.mpr (.inl plain)⟩

/-- The number of a flag with a negative value is not accepted, though its name is. -/
theorem negativeMark_not_accepted :
    sampleMarks.lookupEnum? "Marks" = some sampleMarkDef
      ∧ sampleMarkDef.normalized = sampleMarkDef
      ∧ sampleMarks.parseEnum "Marks" "All" = .ok (-1)
      ∧ sampleMarkDef.acceptsValue (-1) = false
      ∧ sampleMarks.convertCell? (.enum "Marks") "All" = some (.enum "Marks" (-1))
      ∧ sampleMarks.convertCell? (.enum "Marks") (Numeral.wordText (-1)) = none :=
  ⟨by cbv, by cbv, by cbv, by cbv, by cbv, by cbv⟩

end Registry

end TypedSheets
