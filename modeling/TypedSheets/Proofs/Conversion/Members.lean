import Mathlib
import TypedSheets.Conversion.Members
import TypedSheets.Proofs.Text.Split

/-!
# Members that are combined

The segments of member text stand for words of which every bit counts once. So text that two
texts make up with a bar between them stands for the bits of both, only the set of the
segments decides on the word, and the first segment that is not a member decides on the error.
-/

namespace TypedSheets

namespace EnumDef

variable {definition : EnumDef} {bits value : Int64} {names : List String}

/-! ## Bits of several words -/

/-- The bits of all words of a list. -/
def allBits (values : List Int64) : Int64 := values.foldr (· ||| ·) 0

/-- A word of a list adds nothing to the bits of all of them. -/
theorem or_allBits_of_mem {values : List Int64} (member : value ∈ values) :
    value ||| allBits values = allBits values := by
  induction values with
  | nil => cases member
  | cons first values ih =>
      have unfolded : allBits (first :: values) = first ||| allBits values := rfl
      rw [unfolded]
      rcases List.mem_cons.mp member with rfl | later
      · rw [← Int64.or_assoc, Int64.or_self]
      · rw [← Int64.or_assoc, Int64.or_comm value first, Int64.or_assoc, ih later]

/-- Words that add nothing one by one add nothing together. -/
theorem allBits_or_of_forall {values : List Int64}
    (absorbed : ∀ word ∈ values, word ||| value = value) : allBits values ||| value = value := by
  induction values with
  | nil => exact Int64.zero_or
  | cons first values ih =>
      rcases List.forall_mem_cons.mp absorbed with ⟨here, others⟩
      have unfolded : allBits (first :: values) = first ||| allBits values := rfl
      rw [unfolded, Int64.or_assoc, ih others, here]

/-- The bits of the words of a list depend on which words there are only. -/
theorem allBits_congr {first second : List Int64} (same : ∀ word, word ∈ first ↔ word ∈ second) :
    allBits first = allBits second := by
  have forward : allBits first ||| allBits second = allBits second :=
    allBits_or_of_forall fun word member => or_allBits_of_mem ((same word).mp member)
  have backward : allBits second ||| allBits first = allBits first :=
    allBits_or_of_forall fun word member => or_allBits_of_mem ((same word).mpr member)
  rw [← forward, Int64.or_comm, backward]

/-! ## Combining members -/

theorem member_of_some {name : String} (found : definition.memberValue? name = some value) :
    definition.member name = .ok value := by
  rw [member, found]

theorem member_of_none {name : String} (absent : definition.memberValue? name = none) :
    definition.member name = .error (.unknownMember definition.name name) := by
  rw [member, absent]

theorem combine_cons_of_some {name : String} (found : definition.memberValue? name = some value) :
    definition.combine bits (name :: names) = definition.combine (bits ||| value) names := by
  rw [combine, member_of_some found]

theorem combine_cons_of_none {name : String} (absent : definition.memberValue? name = none) :
    definition.combine bits (name :: names) = .error (.unknownMember definition.name name) := by
  rw [combine, member_of_none absent]

/-- The word so far is added to what the names stand for on their own. -/
theorem combine_eq_map (bits : Int64) (names : List String) :
    definition.combine bits names = (definition.combine 0 names).map (bits ||| ·) := by
  induction names generalizing bits with
  | nil => simp [combine, Except.map]
  | cons name names ih =>
      cases found : definition.memberValue? name with
      | none => rw [combine_cons_of_none found, combine_cons_of_none found, Except.map]
      | some value =>
          rw [combine_cons_of_some found, combine_cons_of_some found, ih, ih (0 ||| value)]
          cases definition.combine 0 names with
          | error error => rfl
          | ok rest => simp [Except.map, Int64.or_assoc]

/-- Names after other names add their word, unless there is an error among the first. -/
theorem combine_append (bits : Int64) (first second : List String) :
    definition.combine bits (first ++ second) = (do
      let left ← definition.combine bits first
      let right ← definition.combine 0 second
      return left ||| right) := by
  -- The word so far is what the names before stand for, so it belongs to the left side.
  induction first generalizing bits with
  | nil =>
      rw [List.nil_append, combine_eq_map]
      cases definition.combine 0 second <;> rfl
  | cons name names ih =>
      rw [List.cons_append]
      cases found : definition.memberValue? name with
      | none => rw [combine_cons_of_none found, combine_cons_of_none found]; rfl
      | some value => rw [combine_cons_of_some found, combine_cons_of_some found, ih]

/-- Names stand for the bits of all of their members if each of them is one. -/
theorem combine_ok_iff : definition.combine bits names = .ok value
    ↔ (∀ name ∈ names, (definition.memberValue? name).isSome = true)
      ∧ bits ||| allBits (names.filterMap definition.memberValue?) = value := by
  induction names generalizing bits with
  | nil => simp [combine, allBits]
  | cons name names ih =>
      cases found : definition.memberValue? name with
      | none => simp [combine_cons_of_none found, found]
      | some word =>
          have unfolded : allBits ((name :: names).filterMap definition.memberValue?)
              = word ||| allBits (names.filterMap definition.memberValue?) := by
            rw [List.filterMap_cons_some found]
            rfl
          rw [combine_cons_of_some found, ih, unfolded, Int64.or_assoc]
          simp [found]

/-- The first name that is not a member decides on the error. -/
theorem combine_error_iff {error : ConvertError} : definition.combine bits names = .error error
    ↔ ∃ known unknown later, names = known ++ unknown :: later
      ∧ (∀ name ∈ known, (definition.memberValue? name).isSome = true)
      ∧ definition.memberValue? unknown = none
      ∧ error = .unknownMember definition.name unknown := by
  induction names generalizing bits with
  | nil => simp [combine]
  | cons name names ih =>
      cases found : definition.memberValue? name with
      | none =>
          rw [combine_cons_of_none found]
          constructor
          · intro failed
            obtain rfl := Except.error.inj failed
            exact ⟨[], name, names, rfl, by simp, found, rfl⟩
          · rintro ⟨known, unknown, later, split, every, _, rfl⟩
            cases known with
            | nil => rw [(List.cons.inj split).1]
            | cons first known =>
                have isMember := every first List.mem_cons_self
                rw [← (List.cons.inj split).1, found] at isMember
                cases isMember
      | some word =>
          rw [combine_cons_of_some found, ih]
          constructor
          · rintro ⟨known, unknown, later, rfl, every, absent, rfl⟩
            refine ⟨name :: known, unknown, later, rfl, ?_, absent, rfl⟩
            exact List.forall_mem_cons.mpr ⟨by simp [found], every⟩
          · rintro ⟨known, unknown, later, split, every, absent, rfl⟩
            cases known with
            | nil =>
                rw [← (List.cons.inj split).1, found] at absent
                cases absent
            | cons first known =>
                exact ⟨known, unknown, later, (List.cons.inj split).2,
                  fun other member => every other (List.mem_cons_of_mem _ member), absent, rfl⟩

/-! ## Segments -/

theorem segments_ofList (characters : List Char) :
    segments (String.ofList characters)
      = ((Text.splitChars '|' characters).map Text.trimChars).filterMap fun segment =>
        if segment = [] then none else some (String.ofList segment) := by
  rw [segments, String.toList_ofList]

/-- A bar divides the segments before it from those after it. -/
theorem segments_append_cons (front back : List Char) :
    segments (String.ofList (front ++ '|' :: back))
      = segments (String.ofList front) ++ segments (String.ofList back) := by
  simp only [segments_ofList, Text.splitChars_append_cons, List.map_append, List.filterMap_append]

/-- Text without a bar has one segment at most. -/
theorem segments_of_not_mem {characters : List Char} (free : '|' ∉ characters) :
    segments (String.ofList characters)
      = if Text.trimChars characters = [] then []
        else [String.ofList (Text.trimChars characters)] := by
  rw [segments_ofList, Text.splitChars_of_not_mem free]
  by_cases blank : Text.trimChars characters = [] <;> simp [blank]

theorem segments_bar (first second : String) :
    segments (first ++ "|" ++ second) = segments first ++ segments second := by
  have divided := segments_append_cons first.toList second.toList
  have whole : first ++ "|" ++ second = String.ofList (first.toList ++ '|' :: second.toList) := by
    apply String.toList_inj.mp
    simp
  rw [String.ofList_toList, String.ofList_toList] at divided
  rw [whole, divided]

end EnumDef

namespace Registry

variable {registry : Registry} {name : String} {definition : EnumDef}

theorem parseEnum_of_flags (found : registry.lookupEnum? name = some definition)
    (flags : definition.flags = true) (text : String) :
    registry.parseEnum name text = definition.combine 0 (EnumDef.segments text) := by
  rw [parseEnum, found]
  simp only [EnumDef.parse, flags, if_true]

/-- In a flag enumeration a bar combines the words of two texts, the error of the first one
coming first; only the set of the segments of a text decides on its word; and the error is
that of the first segment that is not a member. -/
theorem parseEnum_combines (found : registry.lookupEnum? name = some definition)
    (flags : definition.flags = true) :
    (∀ first second : String,
        registry.parseEnum name (first ++ "|" ++ second) = do
          let left ← registry.parseEnum name first
          let right ← registry.parseEnum name second
          return left ||| right)
      ∧ (∀ first second : String,
          (∀ segment, segment ∈ EnumDef.segments first ↔ segment ∈ EnumDef.segments second) →
          ∀ value, registry.parseEnum name first = .ok value ↔ registry.parseEnum name second = .ok value)
      ∧ (∀ text error, registry.parseEnum name text = .error error
          ↔ ∃ known unknown later, EnumDef.segments text = known ++ unknown :: later
            ∧ (∀ segment ∈ known, (definition.memberValue? segment).isSome = true)
            ∧ definition.memberValue? unknown = none
            ∧ error = .unknownMember definition.name unknown) := by
  refine ⟨?_, ?_, ?_⟩
  · intro first second
    simp only [parseEnum_of_flags found flags, EnumDef.segments_bar, EnumDef.combine_append]
  · intro first second same value
    have words : ∀ word, word ∈ (EnumDef.segments first).filterMap definition.memberValue?
        ↔ word ∈ (EnumDef.segments second).filterMap definition.memberValue? := by
      intro word
      simp only [List.mem_filterMap, same]
    rw [parseEnum_of_flags found flags, parseEnum_of_flags found flags, EnumDef.combine_ok_iff,
      EnumDef.combine_ok_iff, EnumDef.allBits_congr words]
    simp only [same]
  · intro text error
    rw [parseEnum_of_flags found flags, EnumDef.combine_error_iff]

/-- A registry with three tags, which get the values one, two and four. -/
def sampleTagged : Registry :=
  Registry.empty.registerEnum ⟨"Tags", true, [⟨"A", none⟩, ⟨"B", none⟩, ⟨"C", none⟩]⟩

/-- The definition that the tags are registered with. -/
def sampleTags : EnumDef := ⟨"Tags", true, [⟨"A", some 1⟩, ⟨"B", some 2⟩, ⟨"C", some 4⟩]⟩

/-- Tags combine in any order, and the first name that is no tag is reported. -/
theorem sampleTags_combine :
    sampleTagged.lookupEnum? "Tags" = some sampleTags
      ∧ sampleTags.flags = true
      ∧ sampleTagged.parseEnum "Tags" ("A | C" ++ "|" ++ " B ") = .ok 7
      ∧ sampleTagged.parseEnum "Tags" " C||A|C" = .ok 5
      ∧ sampleTagged.parseEnum "Tags" "A | Y | Z" = .error (.unknownMember "Tags" "Y") := by
  have found : sampleTagged.lookupEnum? "Tags" = some sampleTags := by cbv
  rcases parseEnum_combines found rfl with ⟨combines, sameSegments, fails⟩
  refine ⟨found, rfl, ?_, ?_, ?_⟩
  · rw [combines]
    cbv
  · have repeated : EnumDef.segments " C||A|C" = ["C", "A", "C"] := by cbv
    have once : EnumDef.segments "A | C" = ["A", "C"] := by cbv
    rw [sameSegments " C||A|C" "A | C" (by simp [repeated, once, or_comm])]
    cbv
  · exact (fails _ _).mpr ⟨["A"], "Y", ["Z"], by cbv, by decide, by cbv, rfl⟩

end Registry

end TypedSheets
