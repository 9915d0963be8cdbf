import TypedSheets.Types.Registry

/-!
# Registering enumerations

A registered enumeration takes the place of the one of its name or comes last, and no other
one moves or changes. The one that is found under exactly a name is the one that was last
registered under it.
-/

namespace TypedSheets.Registry

variable {definition : EnumDef} {enums : List EnumDef} {name : String}

/-- The enumeration of exactly a name. -/
def named? (registry : Registry) (name : String) : Option EnumDef :=
  registry.enums.find? fun definition => definition.name == name

theorem find?_putEnum (definition : EnumDef) (enums : List EnumDef) (name : String) :
    (putEnum definition enums).find? (fun other => other.name == name)
      = if definition.name = name then some definition
        else enums.find? fun other => other.name == name := by
  induction enums with
  | nil => by_cases here : definition.name = name <;> simp [putEnum, here]
  | cons other others ih =>
      rw [putEnum]
      by_cases same : other.name = definition.name
      · rw [if_pos same]
        by_cases here : definition.name = name
        · simp [here]
        · simp [here, same]
      · rw [if_neg same, List.find?_cons, List.find?_cons, ih]
        by_cases found : other.name = name
        · have differs : definition.name ≠ name := fun here => same (found.trans here.symm)
          simp only [found, differs, beq_self_eq_true, if_false]
        · simp only [beq_eq_false_iff_ne.mpr found]

/-- What stands under a name after an enumeration was registered. -/
theorem named?_registerEnum (registry : Registry) (definition : EnumDef) (name : String) :
    (registry.registerEnum definition).named? name
      = if definition.name = name then some definition.normalized else registry.named? name :=
  find?_putEnum definition.normalized registry.enums name

/-- An enumeration that stands under a name is what the name stands for. -/
theorem lookupEnum?_of_named? {registry : Registry} (present : registry.named? name = some definition) :
    registry.lookupEnum? name = some definition := by
  rw [named?] at present
  rw [lookupEnum?, present]

theorem name_of_named? {registry : Registry} (present : registry.named? name = some definition) :
    definition.name = name := by
  rw [named?] at present
  have answers := List.find?_some present
  exact eq_of_beq answers

/-- Putting an enumeration in that is there already changes nothing. -/
theorem putEnum_of_find? (present : enums.find? (fun other => other.name == definition.name)
    = some definition) : putEnum definition enums = enums := by
  induction enums with
  | nil => simp at present
  | cons other others ih =>
      rw [putEnum]
      by_cases same : other.name = definition.name
      · rw [List.find?_cons_of_pos (by simp [same])] at present
        rw [if_pos same, Option.some.inj present]
      · rw [List.find?_cons_of_neg (by simp [same])] at present
        rw [if_neg same, ih present]

/-- Registering an enumeration once more changes nothing. -/
theorem registerEnum_of_named? {registry : Registry}
    (present : registry.named? definition.name = some definition.normalized) :
    registry.registerEnum definition = registry := by
  have kept : putEnum definition.normalized registry.enums = registry.enums :=
    putEnum_of_find? present
  rw [registerEnum, kept]

/-- Whether two registries are the same up to the enumeration of a name, which the first
one may lack. -/
structure SameBut (name : String) (old new : Registry) : Prop where
  references : new.references = old.references
  records : new.records = old.records
  /-- It keeps its place, or comes last if there was none. -/
  enums : ∃ earlier replaced definition later, old.enums = earlier ++ replaced ++ later
    ∧ new.enums = earlier ++ definition :: later
    ∧ definition.name = name
    ∧ (replaced = [] ∧ later = [] ∨ ∃ held : EnumDef, replaced = [held] ∧ held.name = name)

theorem exists_split_putEnum (definition : EnumDef) (enums : List EnumDef) :
    ∃ earlier replaced later, enums = earlier ++ replaced ++ later
      ∧ putEnum definition enums = earlier ++ definition :: later
      ∧ (replaced = [] ∧ later = []
        ∨ ∃ held : EnumDef, replaced = [held] ∧ held.name = definition.name) := by
  induction enums with
  | nil => exact ⟨[], [], [], rfl, rfl, .inl ⟨rfl, rfl⟩⟩
  | cons other others ih =>
      rw [putEnum]
      by_cases same : other.name = definition.name
      · rw [if_pos same]
        exact ⟨[], [other], others, rfl, rfl, .inr ⟨other, rfl, same⟩⟩
      · rw [if_neg same]
        rcases ih with ⟨earlier, replaced, later, split, put, shape⟩
        exact ⟨other :: earlier, replaced, later, by simp [split], by simp [put], shape⟩

/-- Registering an enumeration changes the one of its name only. -/
theorem sameBut_registerEnum (registry : Registry) (definition : EnumDef) :
    registry.SameBut definition.name (registry.registerEnum definition) := by
  rcases exists_split_putEnum definition.normalized registry.enums with
    ⟨earlier, replaced, later, split, put, shape⟩
  exact ⟨rfl, rfl, earlier, replaced, _, later, split, put, rfl, shape⟩

end TypedSheets.Registry
