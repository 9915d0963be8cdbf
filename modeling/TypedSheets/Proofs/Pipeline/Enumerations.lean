import TypedSheets.Pipeline.Generation
import TypedSheets.Proofs.Pipeline.Effects
import TypedSheets.Proofs.Synthesis.Declarations
import TypedSheets.Proofs.Types.Declaration
import TypedSheets.Proofs.Types.Numbering

/-!
# Enumerations of sheets

The enumeration that a sheet gives is registered as it is, since numbering its members again
changes nothing. From then on its name stands for it, and declares it as the type of columns unless
the name is read as that of a built-in type or of arrays.

The source of an enumeration lists the members registered for its class. Before the sheet is
converted there are none, and the members of the sheet are numbered by counting, whether or
not they are flags. So the source of a plain enumeration is the same before and after the
conversion; that of a flag enumeration changes unless counting gives its members the powers
of two that the conversion gives them.
-/

namespace TypedSheets.Pipeline

open EnumDef

variable {pipeline : Pipeline} {files : Files} {setting : Setting} {view : View}

/-- The source of an enumeration with a line for each of some members. -/
def enumFile (pipeline : Pipeline) (files : Files) (setting : Setting) (members : List EnumMember) :
    GeneratedSource :=
  ⟨setting.className ++ ".cs", Synthesis.fillFile pipeline.templates files "Enum.txt" [
    ("ClassName", setting.className),
    ("Attributes", if setting.enumFlags then "[Flags]\n" else ""),
    ("EnumMembers", "\n".intercalate (members.map Synthesis.memberLine))]⟩

theorem generateSources_of_enum (isEnum : setting.output = .enum) :
    pipeline.generateSources files setting view
      = .ok [pipeline.enumFile files setting (pipeline.generatedMembers setting view)] := by
  simp only [generateSources, if_pos isEnum, Synthesis.enumSource_eq]
  rfl

/-- The source lists the members that stand under the class. -/
theorem generatedMembers_of_named? {definition : EnumDef}
    (present : pipeline.registry.named? setting.className = some definition) :
    pipeline.generatedMembers setting view = definition.members := by
  rw [generatedMembers, Registry.lookupEnum?_of_named? present]
  exact if_pos (Registry.name_of_named? present)

/-- Without any, it lists the members of the sheet, numbered by counting. -/
theorem generatedMembers_of_fresh (fresh : pipeline.registry.named? setting.className = none) :
    pipeline.generatedMembers setting view = assign false (some 0) (EnumMember.ofSheet view) := by
  rw [Registry.named?] at fresh
  rw [generatedMembers, Registry.lookupEnum?, fresh]
  cases found : (pipeline.registry.findEnums setting.className).head? with
  | none => rfl
  | some other =>
      -- An enumeration of another namespace may answer to the class, but is not taken.
      have listed : other ∈ pipeline.registry.enums :=
        List.mem_of_mem_filter (List.mem_of_head? found)
      have differs : other.name ≠ setting.className := by
        intro same
        have absent := List.find?_eq_none.mp fresh other listed
        rw [same, beq_self_eq_true] at absent
        exact absent rfl
      exact if_neg differs

theorem members_enumOfSheet (setting : Setting) (view : View) :
    (enumOfSheet setting view).members
      = assign setting.enumFlags (some (if setting.enumFlags then 1 else 0))
        (EnumMember.ofSheet view) := rfl

/-- Counting gives the members of a sheet the values that they are registered with exactly
if they are no flags, or follow their given values as powers of two do. -/
theorem members_agree_iff (setting : Setting) (view : View) :
    assign false (some 0) (EnumMember.ofSheet view) = (enumOfSheet setting view).members
      ↔ setting.enumFlags = false
        ∨ automaticCount (EnumMember.ofSheet view) = 0 ∧ CountsByPowers (EnumMember.ofSheet view) := by
  rw [members_enumOfSheet]
  cases setting.enumFlags with
  | false => exact iff_of_true rfl (.inl rfl)
  | true =>
      simp only [if_true, assign_eq_iff, agreesFor_start_iff, Bool.true_eq_false, false_or]

/-- The members that a sheet declares, before they are numbered. -/
def declaredEnum (setting : Setting) (view : View) : EnumDef :=
  ⟨setting.className, setting.enumFlags, EnumMember.ofSheet view⟩

theorem convertGrid_of_enum (isEnum : setting.output = .enum) :
    pipeline.convertGrid setting view
      = (.ok (enumOutput setting (enumOfSheet setting view)), { pipeline with
          registry := pipeline.registry.registerEnum (enumOfSheet setting view) }) := by
  rw [convertGrid, if_pos isEnum]

/-- The enumeration of a sheet is registered the way it is, since it is numbered already. -/
theorem named?_registerEnum_enumOfSheet (registry : Registry) (setting : Setting) (view : View) :
    (registry.registerEnum (enumOfSheet setting view)).named? setting.className
      = some (enumOfSheet setting view) := by
  have named : (enumOfSheet setting view).name = setting.className := rfl
  rw [Registry.named?_registerEnum, if_pos named, enumOfSheet, normalized_normalized]

/-- Numbering keeps the names, the order and the given values of members, and numbering again
changes nothing. So the enumeration that the conversion of a sheet gives is, with its members
without a value, the one that stands in the registry. -/
theorem convertGrid_isNumbered (pipeline : Pipeline) (setting : Setting) (view : View) :
    (∀ definition : EnumDef, IsNumbered definition definition.normalized)
      ∧ (setting.output = .enum → ∃ output definition after,
        pipeline.convertGrid setting view = (.ok output, after)
          ∧ output.enumDef = some definition
          ∧ after.registry.named? setting.className = some definition
          ∧ IsNumbered (declaredEnum setting view) definition) := by
  refine ⟨isNumbered_normalized, ?_⟩
  intro isEnum
  refine ⟨enumOutput setting (enumOfSheet setting view), enumOfSheet setting view, _,
    convertGrid_of_enum isEnum, rfl, ?_, ?_⟩
  · exact named?_registerEnum_enumOfSheet pipeline.registry setting view
  · exact isNumbered_normalized (declaredEnum setting view)

/-- A setting of flags. -/
def tagSetting : Setting := { Setting.ofClass "Tags" .enum with enumFlags := true }

/-- A sheet of flags that ends with the last power of two. -/
def fullTags : View :=
  (Grid.ofRows [["name", "value"], ["Rare", ""], ["Lost", "4611686018427387904"],
    ["Cursed", ""]]).view

/-- The flag after the last power of two is left without a value, also in the registry. -/
theorem fullTags_isNumbered :
    tagSetting.output = .enum ∧ ∃ output after,
      sampleStart.convertGrid tagSetting fullTags = (.ok output, after)
        ∧ output.enumDef = after.registry.named? "Tags"
        ∧ output.enumDef = some ⟨"Tags", true, [⟨"Rare", some 1⟩,
          ⟨"Lost", some 4611686018427387904⟩, ⟨"Cursed", none⟩]⟩ := by
  have isEnum : tagSetting.output = .enum := rfl
  have stands : (sampleStart.convertGrid tagSetting fullTags).2.registry.named? "Tags"
      = some ⟨"Tags", true, [⟨"Rare", some 1⟩, ⟨"Lost", some 4611686018427387904⟩,
        ⟨"Cursed", none⟩]⟩ := by decide +kernel
  rcases (convertGrid_isNumbered sampleStart tagSetting fullTags).2 isEnum with
    ⟨output, definition, after, converted, given, registered, _⟩
  refine ⟨isEnum, output, after, converted, given.trans registered.symm, ?_⟩
  rw [given, ← registered, ← stands, converted]
  rfl

/-! ## Declared enumerations -/

/-- The conversion of an enumeration sheet registers the enumeration under the name of the class.
The name declares it exactly if it has no blanks around it, does not end in brackets and is none
of a built-in type. -/
theorem convertGrid_declares_iff (pipeline : Pipeline) (view : View)
    (isEnum : setting.output = .enum) :
    ∃ after, pipeline.convertGrid setting view
        = (.ok (enumOutput setting (enumOfSheet setting view)), after)
      ∧ after.registry.lookupEnum? setting.className = some (enumOfSheet setting view)
      ∧ (after.registry.resolve? setting.className = some (.enum setting.className)
        ↔ Registry.IsDeclarable setting.className)
      ∧ (Registry.IsDeclarable setting.className →
        after.registry.ColumnsDeclare setting.className (.enum setting.className)) := by
  have registered := named?_registerEnum_enumOfSheet pipeline.registry setting view
  have declares := Registry.resolve?_eq_enum_iff_of_named? registered
  refine ⟨_, convertGrid_of_enum isEnum, Registry.lookupEnum?_of_named? registered, declares, ?_⟩
  intro declarable
  exact Registry.columnsDeclare_of_resolve? (declares.mpr declarable)

/-- A setting of an enumeration with dots in its name. -/
def raritySetting : Setting := Setting.ofClass "Game.Rarity" .enum

/-- A sheet of two members. -/
def twoMembers : View := (Grid.ofRows [["name"], ["Red"], ["Green"]]).view

/-- A pipeline that knows an enumeration of the same short name can have it declared. -/
theorem rarity_declared :
    raritySetting.output = .enum ∧ Registry.IsDeclarable "Game.Rarity"
      ∧ ∃ after, sampleStart.convertGrid raritySetting twoMembers
          = (.ok (enumOutput raritySetting (enumOfSheet raritySetting twoMembers)), after)
        ∧ after.registry.resolve? "Game.Rarity" = some (.enum "Game.Rarity")
        ∧ after.registry.ColumnsDeclare "Game.Rarity" (.enum "Game.Rarity") := by
  have isEnum : raritySetting.output = .enum := rfl
  have declarable : Registry.IsDeclarable "Game.Rarity" :=
    ⟨by decide, by decide, by decide, by decide⟩
  rcases convertGrid_declares_iff sampleStart twoMembers isEnum with
    ⟨after, converted, -, declares, columns⟩
  exact ⟨isEnum, declarable, after, converted, declares.mpr declarable, columns declarable⟩

/-- A setting of an enumeration with the name of a composite type. -/
def colorSetting : Setting := Setting.ofClass "Color" .enum

/-- The enumeration is registered, but its name declares the composite type. -/
theorem color_not_declared :
    colorSetting.output = .enum ∧ Text.trim colorSetting.className = colorSetting.className
      ∧ colorSetting.className ≠ ""
      ∧ (sampleStart.convertGrid colorSetting twoMembers).2.registry.lookupEnum? "Color"
        = some ⟨"Color", false, [⟨"Red", some 0⟩, ⟨"Green", some 1⟩]⟩
      ∧ (sampleStart.convertGrid colorSetting twoMembers).2.registry.resolve? "Color"
        = some (.composite .color)
      ∧ (sampleStart.convertGrid colorSetting twoMembers).2.registry.resolve? "Color"
        ≠ some (.enum "Color") := by
  have captured : (sampleStart.convertGrid colorSetting twoMembers).2.registry.resolve? "Color"
      = some (.composite .color) := by
    rw [Registry.resolve?_of_simple (by decide) (by decide)]
    rfl
  refine ⟨rfl, by decide, by decide, by decide +kernel, captured, ?_⟩
  rw [captured]
  simp

/-! ## Generated enumerations -/

/-- What the source of an enumeration lists before its sheet is converted, and what it lists
after the conversion registered a definition. -/
structure ListsMembers (before : Pipeline) (setting : Setting) (view : View)
    (definition : EnumDef) (after : Pipeline) : Prop where
  converted : before.convertGrid setting view = (.ok (enumOutput setting definition), after)
  registered : after.registry.named? setting.className = some definition
  afterwards : after.generatedMembers setting view = definition.members
  /-- The source holds a line for each of the listed members. -/
  lines : ∀ files,
    before.generateSources files setting view
        = .ok [before.enumFile files setting (before.generatedMembers setting view)]
      ∧ after.generateSources files setting view
        = .ok [after.enumFile files setting definition.members]
  names : (before.generatedMembers setting view).map EnumMember.name
    = definition.members.map EnumMember.name
  /-- The members are the same before, with their values, if they are no flags or counting
  gives them the powers of two of flags, and only then. -/
  beforehand : before.generatedMembers setting view = definition.members
    ↔ setting.enumFlags = false
      ∨ automaticCount (EnumMember.ofSheet view) = 0 ∧ CountsByPowers (EnumMember.ofSheet view)
  /-- Then the source does not change. -/
  source : before.generatedMembers setting view = definition.members → ∀ files,
    after.generateSources files setting view = before.generateSources files setting view

/-- The conversion of an enumeration sheet registers the members that its source lists from
then on. The source lists the same ones before exactly if the enumeration is plain or its
flags follow given values as powers of two do. -/
theorem convertGrid_listsMembers (isEnum : setting.output = .enum)
    (fresh : pipeline.registry.named? setting.className = none) :
    ∃ definition after, ListsMembers pipeline setting view definition after := by
  have converted : pipeline.convertGrid setting view = _ := convertGrid_of_enum isEnum
  have registered := named?_registerEnum_enumOfSheet pipeline.registry setting view
  refine ⟨enumOfSheet setting view, _, converted, registered,
    generatedMembers_of_named? registered, ?_, ?_, ?_, ?_⟩
  · intro files
    refine ⟨generateSources_of_enum isEnum, ?_⟩
    rw [generateSources_of_enum isEnum, generatedMembers_of_named? registered]
  · rw [generatedMembers_of_fresh fresh, members_enumOfSheet, map_name_assign, map_name_assign]
  · rw [generatedMembers_of_fresh fresh]
    exact members_agree_iff setting view
  · intro same files
    rw [generateSources_of_enum isEnum, generateSources_of_enum isEnum, same,
      generatedMembers_of_named? registered]
    rfl

/-- Flags that follow given values as powers of two do. -/
def countedTags : View :=
  (Grid.ofRows [["name", "value"], ["None", "0"], ["Rare", ""], ["Cursed", ""], ["Quest", "7"],
    ["Lost", ""]]).view

theorem countedTags_countByPowers :
    automaticCount (EnumMember.ofSheet countedTags) = 0
      ∧ CountsByPowers (EnumMember.ofSheet countedTags) := by
  have listed : EnumMember.ofSheet countedTags = [⟨"None", some 0⟩, ⟨"Rare", none⟩,
      ⟨"Cursed", none⟩, ⟨"Quest", some 7⟩, ⟨"Lost", none⟩] := by decide +kernel
  have afterZero : AgreesAfter 0 2 := .inr (.inr (.inl ⟨rfl, rfl⟩))
  have afterSeven : AgreesAfter 7 1 := .inr (.inl ⟨rfl, 3, by decide⟩)
  rw [listed]
  simpa [CountsByPowers, automaticCount] using And.intro afterZero afterSeven

/-- Such flags have the same source before and after. -/
theorem countedTags_stay :
    tagSetting.output = .enum ∧ sampleStart.registry.named? tagSetting.className = none
      ∧ ∃ definition after, ListsMembers sampleStart tagSetting countedTags definition after
        ∧ sampleStart.generatedMembers tagSetting countedTags = definition.members := by
  have isEnum : tagSetting.output = .enum := rfl
  have fresh : sampleStart.registry.named? tagSetting.className = none := rfl
  rcases convertGrid_listsMembers isEnum fresh with ⟨definition, after, lists⟩
  exact ⟨isEnum, fresh, definition, after, lists,
    lists.beforehand.mpr (.inr countedTags_countByPowers)⟩

/-- Flags without given values. -/
def plainTags : View := (Grid.ofRows [["name", "value"], ["Rare", ""], ["Cursed", ""]]).view

/-- The flags are written as zero and one in the source that is generated before their sheet
is converted, and as one and two, which is how they are registered, in the one after. -/
theorem plainTags_change :
    tagSetting.output = .enum ∧ sampleStart.registry.named? tagSetting.className = none
      ∧ sampleStart.generateSources Files.empty tagSetting plainTags
        = .ok [sampleStart.enumFile Files.empty tagSetting
          [⟨"Rare", some 0⟩, ⟨"Cursed", some 1⟩]]
      ∧ (sampleStart.convertGrid tagSetting plainTags).2.registry.named? tagSetting.className
        = some ⟨"Tags", true, [⟨"Rare", some 1⟩, ⟨"Cursed", some 2⟩]⟩
      ∧ (sampleStart.convertGrid tagSetting plainTags).2.generateSources Files.empty tagSetting
          plainTags
        = .ok [sampleStart.enumFile Files.empty tagSetting
          [⟨"Rare", some 1⟩, ⟨"Cursed", some 2⟩]]
      ∧ Synthesis.memberLine ⟨"Rare", some 0⟩ = "    Rare = 0,"
      ∧ Synthesis.memberLine ⟨"Rare", some 1⟩ = "    Rare = 1," := by
  have isEnum : tagSetting.output = .enum := rfl
  have counted : sampleStart.generatedMembers tagSetting plainTags
      = [⟨"Rare", some 0⟩, ⟨"Cursed", some 1⟩] := by decide +kernel
  have registered : (sampleStart.convertGrid tagSetting plainTags).2.registry.named?
      tagSetting.className = some ⟨"Tags", true, [⟨"Rare", some 1⟩, ⟨"Cursed", some 2⟩]⟩ := by
    decide +kernel
  refine ⟨isEnum, rfl, ?_, registered, ?_, by decide, by decide⟩
  · rw [generateSources_of_enum isEnum, counted]
  · rw [generateSources_of_enum isEnum, generatedMembers_of_named? registered]
    rfl

end TypedSheets.Pipeline
