import Mathlib.Data.List.Induction
import Mathlib.Data.List.Nodup
import TypedSheets.Proofs.Types.Registration

/-!
# Registering one enumeration after the other

A registry holds one enumeration for each name that came up, in the order in which the names
came up first, and it is the one that was registered last under the name. A name stands for the
enumeration of this name, and else for the first one with this short name. Registering a
further one under a name other than these two does not change this: it comes last, or in place
of one with its own short name.
-/

namespace TypedSheets

/-- A name that comes up once more stays at its first place. -/
theorem eraseDups_concat (names : List String) (name : String) :
    (names ++ [name]).eraseDups
      = if name ∈ names then names.eraseDups else names.eraseDups ++ [name] := by
  rw [List.eraseDups_append, List.removeAll]
  by_cases known : name ∈ names
  · simp [known]
  · simp [known, List.eraseDups_cons]

namespace Registry

variable {registry : Registry} {definition further other : EnumDef} {enums : List EnumDef}
variable {definitions : List EnumDef} {name : String}

/-! ## What a registry holds -/

/-- What a registry holds after enumerations were registered one after the other. -/
structure ListsLast (registry : Registry) (definitions : List EnumDef) : Prop where
  distinct : (registry.enums.map EnumDef.name).Nodup
  /-- Of equal names the first one counts. -/
  ordered : registry.enums.map EnumDef.name = (definitions.map EnumDef.name).eraseDups
  last : ∀ definition ∈ registry.enums, ∃ earlier final later,
    definitions = earlier ++ final :: later
      ∧ (∀ other ∈ later, other.name ≠ definition.name)
      ∧ definition = final.normalized

theorem map_name_putEnum (definition : EnumDef) (enums : List EnumDef) :
    (putEnum definition enums).map EnumDef.name
      = if definition.name ∈ enums.map EnumDef.name then enums.map EnumDef.name
        else enums.map EnumDef.name ++ [definition.name] := by
  induction enums with
  | nil => rfl
  | cons first enums ih =>
      rw [putEnum]
      by_cases same : first.name = definition.name
      · simp [same]
      · have differs : ¬definition.name = first.name := fun equal => same equal.symm
        rw [if_neg same, List.map_cons, ih, List.map_cons]
        by_cases later : definition.name ∈ enums.map EnumDef.name
        · rw [if_pos later, if_pos (List.mem_cons_of_mem _ later)]
        · rw [if_neg later, if_neg (List.not_mem_cons_of_ne_of_not_mem differs later),
            List.cons_append]

/-- Besides the new enumeration there are those of other names. -/
theorem eq_or_mem_of_mem_putEnum (distinct : (enums.map EnumDef.name).Nodup)
    (member : other ∈ putEnum definition enums) :
    other = definition ∨ other ∈ enums ∧ other.name ≠ definition.name := by
  induction enums with
  | nil => exact .inl (List.mem_singleton.mp member)
  | cons first enums ih =>
      rw [List.map_cons, List.nodup_cons] at distinct
      rw [putEnum] at member
      by_cases same : first.name = definition.name
      · rw [if_pos same] at member
        rcases List.mem_cons.mp member with new | later
        · exact .inl new
        · refine .inr ⟨List.mem_cons_of_mem _ later, ?_⟩
          intro again
          apply distinct.1
          rw [same, ← again]
          exact List.mem_map_of_mem later
      · rw [if_neg same] at member
        rcases List.mem_cons.mp member with rfl | later
        · exact .inr ⟨List.mem_cons_self, same⟩
        · exact (ih distinct.2 later).imp id fun both => ⟨List.mem_cons_of_mem _ both.1, both.2⟩

theorem listsLast_empty : empty.ListsLast [] where
  distinct := .nil
  ordered := rfl
  last := by simp [empty]

/-- One more enumeration comes last or in place of the one of its name. -/
theorem ListsLast.registerEnum (lists : registry.ListsLast definitions) (definition : EnumDef) :
    (registry.registerEnum definition).ListsLast (definitions ++ [definition]) := by
  have names : (registry.registerEnum definition).enums.map EnumDef.name
      = if definition.name ∈ registry.enums.map EnumDef.name then registry.enums.map EnumDef.name
        else registry.enums.map EnumDef.name ++ [definition.name] :=
    map_name_putEnum definition.normalized registry.enums
  have known : definition.name ∈ registry.enums.map EnumDef.name
      ↔ definition.name ∈ definitions.map EnumDef.name := by
    rw [lists.ordered, List.mem_eraseDups]
  constructor
  · rw [names]
    split
    · exact lists.distinct
    · next fresh =>
        rw [← List.concat_eq_append]
        exact (List.nodup_concat _ _).mpr ⟨fresh, lists.distinct⟩
  · rw [names, List.map_append, List.map_singleton, eraseDups_concat, lists.ordered]
    simp only [← lists.ordered, known]
  · intro held member
    rcases eq_or_mem_of_mem_putEnum lists.distinct member with new | ⟨old, differs⟩
    · exact ⟨definitions, definition, [], rfl, by simp, new⟩
    · rcases lists.last held old with ⟨earlier, final, later, split, others, normalized⟩
      refine ⟨earlier, final, later ++ [definition], by simp [split], ?_, normalized⟩
      intro other listed
      rcases List.mem_append.mp listed with before | last
      · exact others other before
      · rw [List.mem_singleton.mp last]
        exact differs.symm

/-- The registry after enumerations were registered one after the other. -/
def registered (definitions : List EnumDef) : Registry :=
  definitions.foldl registerEnum empty

theorem registered_concat (definitions : List EnumDef) (definition : EnumDef) :
    registered (definitions ++ [definition])
      = (registered definitions).registerEnum definition := by
  rw [registered, List.foldl_append]
  rfl

theorem listsLast_registered (definitions : List EnumDef) :
    (registered definitions).ListsLast definitions := by
  induction definitions using List.reverseRecOn with
  | nil => exact listsLast_empty
  | append_singleton definitions definition ih =>
      rw [registered_concat]
      exact ih.registerEnum definition

/-! ## What names stand for -/

/-- Whether a name stands for an enumeration of a registry: it is its name, or there is none of
this name and it is the first one with this short name. -/
def StandsFor (registry : Registry) (name : String) (definition : EnumDef) : Prop :=
  definition ∈ registry.enums ∧ definition.name = name
    ∨ (∀ other ∈ registry.enums, other.name ≠ name) ∧ definition.shortName = name
      ∧ ∃ earlier later, registry.enums = earlier ++ definition :: later
        ∧ ∀ other ∈ earlier, other.shortName ≠ name

/-- The first enumeration with a short name. -/
def firstShort? (registry : Registry) (name : String) : Option EnumDef :=
  registry.enums.find? fun definition => definition.shortName == name

theorem named?_eq_none_iff :
    registry.named? name = none ↔ ∀ other ∈ registry.enums, other.name ≠ name := by
  simp [named?]

/-- Under distinct names there is one enumeration of a name at most. -/
theorem named?_eq_some_iff (distinct : (registry.enums.map EnumDef.name).Nodup) :
    registry.named? name = some definition
      ↔ definition ∈ registry.enums ∧ definition.name = name := by
  constructor
  · intro present
    exact ⟨List.mem_of_find?_eq_some present, name_of_named? present⟩
  · rintro ⟨member, rfl⟩
    cases found : registry.named? definition.name with
    | none => exact absurd rfl (named?_eq_none_iff.mp found definition member)
    | some held =>
        have inside : held ∈ registry.enums := List.mem_of_find?_eq_some found
        rw [List.inj_on_of_nodup_map distinct inside member (name_of_named? found)]

/-- A name stands for the enumeration of this name before the first one with this short name. -/
theorem lookupEnum?_eq_or (registry : Registry) (name : String) :
    registry.lookupEnum? name = (registry.named? name).or (registry.firstShort? name) := by
  cases found : registry.named? name with
  | some definition => exact lookupEnum?_of_named? found
  | none =>
      have answers : ∀ other ∈ registry.enums,
          other.answersTo name = (other.shortName == name) := by
        intro other member
        have differs := named?_eq_none_iff.mp found other member
        rw [EnumDef.answersTo, beq_eq_false_iff_ne.mpr differs, Bool.false_or]
      rw [named?] at found
      rw [lookupEnum?, found, findEnums, List.filter_congr answers, List.head?_filter]
      rfl

/-- A name that stands for an enumeration is its full or its short name. -/
theorem answersTo_of_lookupEnum? (found : registry.lookupEnum? name = some definition) :
    definition.answersTo name = true := by
  rw [lookupEnum?_eq_or] at found
  rw [EnumDef.answersTo, Bool.or_eq_true]
  rcases Option.or_eq_some_iff.mp found with named | ⟨_, short⟩
  · exact .inl (beq_iff_eq.mpr (name_of_named? named))
  · rw [firstShort?] at short
    have answers := List.find?_some short
    exact .inr answers

/-- What a name stands for, its own name stands for. -/
theorem lookupEnum?_name (found : registry.lookupEnum? name = some definition) :
    registry.lookupEnum? definition.name = some definition := by
  apply lookupEnum?_of_named?
  rw [lookupEnum?_eq_or] at found
  rcases Option.or_eq_some_iff.mp found with named | ⟨_, short⟩
  · rw [name_of_named? named]
    exact named
  · rw [firstShort?, List.find?_eq_some_iff_append] at short
    rcases short with ⟨answers, earlier, later, split, others⟩
    rw [named?, List.find?_eq_some_iff_append]
    refine ⟨beq_self_eq_true _, earlier, later, split, ?_⟩
    intro other member
    have differs := others other member
    rw [EnumDef.shortName] at answers differs
    by_cases same : other.name = definition.name
    · rw [same, answers] at differs
      cases differs
    · simp [same]

theorem lookupEnum?_eq_some_iff (distinct : (registry.enums.map EnumDef.name).Nodup) :
    registry.lookupEnum? name = some definition ↔ registry.StandsFor name definition := by
  rw [lookupEnum?_eq_or, Option.or_eq_some_iff, named?_eq_some_iff distinct, named?_eq_none_iff,
    firstShort?, List.find?_eq_some_iff_append]
  simp [StandsFor]

/-- The first enumeration whose name has a property stays the first one when an enumeration of
another name is put in: that comes last or takes the place of one without the property. -/
theorem find?_putEnum_of_ne {answers : EnumDef → Bool}
    (byName : ∀ left right : EnumDef, left.name = right.name → answers left = answers right)
    (found : enums.find? answers = some definition) (differs : further.name ≠ definition.name) :
    (putEnum further enums).find? answers = some definition := by
  induction enums with
  | nil => simp at found
  | cons first enums ih =>
      rw [putEnum]
      by_cases answered : answers first = true
      · rw [List.find?_cons_of_pos answered] at found
        obtain rfl := Option.some.inj found
        rw [if_neg differs.symm, List.find?_cons_of_pos answered]
      · rw [List.find?_cons_of_neg answered] at found
        by_cases same : first.name = further.name
        · rw [byName first further same] at answered
          rw [if_pos same, List.find?_cons_of_neg answered, found]
        · rw [if_neg same, List.find?_cons_of_neg answered, ih found]

/-- What a name stands for stays when an enumeration of another name is registered. -/
theorem lookupEnum?_registerEnum_of_ne (found : registry.lookupEnum? name = some definition)
    (unnamed : further.name ≠ name) (differs : further.name ≠ definition.name) :
    (registry.registerEnum further).lookupEnum? name = some definition := by
  rw [lookupEnum?_eq_or] at found ⊢
  rw [named?_registerEnum, if_neg unnamed]
  rcases Option.or_eq_some_iff.mp found with present | ⟨absent, first⟩
  · rw [present]
    rfl
  · have byName : ∀ left right : EnumDef, left.name = right.name →
        (left.shortName == name) = (right.shortName == name) := by
      intro left right same
      rw [EnumDef.shortName, EnumDef.shortName, same]
    rw [absent]
    exact find?_putEnum_of_ne byName first differs

/-- Registering enumerations one after the other makes an ordered map in which the last one of a
name wins; a name stands for the enumeration of this name and else for the first one with this
short name; and only an enumeration of this name or of that of what it stands for changes it. -/
theorem registered_lastWins (definitions : List EnumDef) :
    (registered definitions).ListsLast definitions
      ∧ (∀ name definition, (registered definitions).lookupEnum? name = some definition
        ↔ (registered definitions).StandsFor name definition)
      ∧ ∀ name definition further, (registered definitions).lookupEnum? name = some definition →
        further.name ≠ name → further.name ≠ definition.name →
          (registered (definitions ++ [further])).lookupEnum? name = some definition := by
  have lists := listsLast_registered definitions
  refine ⟨lists, ?_, ?_⟩
  · intro name definition
    exact lookupEnum?_eq_some_iff lists.distinct
  · intro name definition further found unnamed differs
    rw [registered_concat]
    exact lookupEnum?_registerEnum_of_ne found unnamed differs

/-- Elements of two namespaces, of which those of the game are registered twice. -/
def sampleNamespaces : List EnumDef :=
  [⟨"Game.Element", false, [⟨"Fire", none⟩]⟩, ⟨"Ui.Element", false, [⟨"Button", none⟩]⟩,
    ⟨"Game.Element", false, [⟨"Fire", some 3⟩, ⟨"Water", none⟩]⟩]

/-- The elements of the game as they were registered last. -/
def sampleGameElement : EnumDef := ⟨"Game.Element", false, [⟨"Fire", some 3⟩, ⟨"Water", some 4⟩]⟩

/-- The elements of the game keep their place, and the bare name stands for them also when
elements of a third namespace come. -/
theorem sampleNamespaces_lastWins :
    (registered sampleNamespaces).enums.map EnumDef.name = ["Game.Element", "Ui.Element"]
      ∧ (registered sampleNamespaces).lookupEnum? "Element" = some sampleGameElement
      ∧ "Sky.Element" ≠ "Element"
      ∧ "Sky.Element" ≠ sampleGameElement.name
      ∧ (registered (sampleNamespaces ++ [⟨"Sky.Element", true, []⟩])).lookupEnum? "Element"
        = some sampleGameElement := by
  rcases registered_lastWins sampleNamespaces with ⟨lists, standsFor, stays⟩
  have found : (registered sampleNamespaces).lookupEnum? "Element" = some sampleGameElement := by
    rw [standsFor]
    refine .inr ⟨by decide, by decide, [], [⟨"Ui.Element", false, [⟨"Button", some 0⟩]⟩], ?_, by simp⟩
    decide
  refine ⟨?_, found, by decide, by decide, ?_⟩
  · rw [lists.ordered]
    rfl
  · exact stays "Element" sampleGameElement ⟨"Sky.Element", true, []⟩ found (by decide) (by decide)

end Registry

end TypedSheets
