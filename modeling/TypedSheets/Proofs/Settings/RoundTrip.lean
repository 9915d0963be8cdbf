import TypedSheets.Proofs.Value.RoundTrip
import TypedSheets.Settings.Encoding

/-!
# Configurations are read back

The text of a configuration is read as the configuration. What is written of a part of it
is a value of few levels that comes back from its text and denotes the part again; this is
said once for lists and for optional parts, and then of every kind of part by its fields.
-/

namespace TypedSheets

namespace Json

/-- Whether the text of a value is read as the value, which has at most so many levels. -/
structure ReadsBackWithin (levels : Nat) (json : Json) : Prop where
  readsBack : json.ReadsBack
  shallow : json.depth ≤ levels

namespace ReadsBackWithin

theorem null (levels : Nat) : Json.null.ReadsBackWithin levels :=
  ⟨trivial, Nat.zero_le levels⟩

theorem bool (levels : Nat) (value : Bool) : (Json.bool value).ReadsBackWithin levels :=
  ⟨trivial, Nat.zero_le levels⟩

theorem string (levels : Nat) (text : String) : (Json.string text).ReadsBackWithin levels :=
  ⟨trivial, Nat.zero_le levels⟩

theorem word (levels : Nat) (value : Int64) :
    (Json.number (.integer value.toInt)).ReadsBackWithin levels :=
  ⟨readsBack_word value, Nat.zero_le levels⟩

theorem mono {levels more : Nat} {json : Json} (within : json.ReadsBackWithin levels)
    (fewer : levels ≤ more) : json.ReadsBackWithin more :=
  ⟨within.readsBack, Nat.le_trans within.shallow fewer⟩

/-- The items of an array lie one level below it. -/
theorem array {levels : Nat} {items : List Json}
    (within : ∀ item ∈ items, item.ReadsBackWithin levels) :
    (Json.array items).ReadsBackWithin (levels + 1) := by
  constructor
  · induction items with
    | nil => trivial
    | cons item items ih =>
        rcases List.forall_mem_cons.mp within with ⟨first, others⟩
        exact ⟨first.readsBack, ih others⟩
  · apply Nat.succ_le_succ
    induction items with
    | nil => exact Nat.zero_le levels
    | cons item items ih =>
        rcases List.forall_mem_cons.mp within with ⟨first, others⟩
        exact Nat.max_le.mpr ⟨first.shallow, ih others⟩

/-- The values of an object lie one level below it. -/
theorem object {levels : Nat} {entries : List (String × Json)}
    (within : ∀ entry ∈ entries, entry.2.ReadsBackWithin levels) :
    (Json.object entries).ReadsBackWithin (levels + 1) := by
  constructor
  · induction entries with
    | nil => trivial
    | cons entry entries ih =>
        rcases List.forall_mem_cons.mp within with ⟨first, others⟩
        exact ⟨first.readsBack, ih others⟩
  · apply Nat.succ_le_succ
    induction entries with
    | nil => exact Nat.zero_le levels
    | cons entry entries ih =>
        rcases List.forall_mem_cons.mp within with ⟨first, others⟩
        exact Nat.max_le.mpr ⟨first.shallow, ih others⟩

end ReadsBackWithin

/-- Whether parts come back from what is written of them: the text of their JSON is read as
this JSON, which has at most so many levels and denotes the part. -/
structure Faithful {α : Type} (levels : Nat) (toJson : α → Json) (ofJson? : Json → Option α) :
    Prop where
  within : ∀ part, (toJson part).ReadsBackWithin levels
  denotes : ∀ part, ofJson? (toJson part) = some part

/-- What is written of a part that may be absent. -/
def ofOptional {α : Type} (toJson : α → Json) : Option α → Json
  | none => .null
  | some part => toJson part

theorem faithful_string : Faithful 0 Json.string asString? :=
  ⟨ReadsBackWithin.string 0, fun _ => rfl⟩

theorem faithful_word : Faithful 0 (fun value : Int64 => .number (.integer value.toInt)) asWord? :=
  ⟨ReadsBackWithin.word 0, asWord?_word⟩

namespace Faithful

variable {α : Type} {levels : Nat} {toJson : α → Json} {ofJson? : Json → Option α}

theorem list (faithful : Faithful levels toJson ofJson?) :
    Faithful (levels + 1) (fun parts => .array (parts.map toJson)) (asList? ofJson?) := by
  constructor
  · intro parts
    apply ReadsBackWithin.array
    intro json member
    rcases List.mem_map.mp member with ⟨part, _, rfl⟩
    exact faithful.within part
  · intro parts
    change (parts.map toJson).mapM ofJson? = some parts
    induction parts with
    | nil => rfl
    | cons part parts ih => simp [faithful.denotes part, ih]

/-- An absent part is written as `null`, as which no part is written that is there. -/
theorem optional (faithful : Faithful levels toJson ofJson?)
    (visible : ∀ part, toJson part ≠ .null) :
    Faithful levels (ofOptional toJson) (asOptional? ofJson?) := by
  constructor
  · intro part
    cases part with
    | none => exact ReadsBackWithin.null levels
    | some part => exact faithful.within part
  · intro part
    cases part with
    | none => rfl
    | some part =>
        have denotes := faithful.denotes part
        have some := visible part
        simp only [ofOptional]
        generalize toJson part = json at denotes some ⊢
        cases json with
        | null => exact absurd rfl some
        | _ => simp [asOptional?, denotes]

end Faithful

theorem faithful_optionalText : Faithful 0 ofOptionalText (asOptional? asString?) := by
  have same : ofOptionalText = ofOptional Json.string := by
    funext part
    cases part <;> rfl
  rw [same]
  exact faithful_string.optional fun _ => by simp

end Json

open Json (ReadsBackWithin Faithful faithful_string faithful_word faithful_optionalText)

/-! ## Enumerations -/

theorem EnumMember.toJson_eq (member : EnumMember) :
    member.toJson = .object [
      ("name", .string member.name),
      ("value", Json.ofOptional (fun value => .number (.integer value.toInt)) member.value)] := by
  rcases member with ⟨name, value⟩
  cases value <;> rfl

theorem EnumMember.faithful : Faithful 1 toJson ofJson? := by
  have optionalWord := faithful_word.optional fun _ => by simp
  constructor
  · intro member
    rw [toJson_eq]
    apply ReadsBackWithin.object
    simp only [List.forall_mem_cons]
    exact ⟨.string 0 _, optionalWord.within member.value, by simp⟩
  · intro member
    have known : ∃ field, member.toJson.fields? ["name", "value"] = some field
        ∧ field "name" = some (.string member.name)
        ∧ field "value"
          = some (Json.ofOptional (fun value => .number (.integer value.toInt)) member.value) := by
      rw [toJson_eq]
      exact ⟨_, rfl, rfl, rfl⟩
    rcases known with ⟨field, known, nameField, valueField⟩
    simp [ofJson?, known, nameField, valueField, Json.required?, Json.orDefault?,
      faithful_string.denotes, optionalWord.denotes]

theorem EnumDef.faithful : Faithful 3 toJson ofJson? := by
  have members := EnumMember.faithful.list
  constructor
  · intro definition
    apply ReadsBackWithin.object
    simp only [List.forall_mem_cons]
    exact ⟨.string 2 _, .bool 2 _, members.within _, by simp⟩
  · intro definition
    have known : ∃ field, definition.toJson.fields? ["name", "flags", "members"] = some field
        ∧ field "name" = some (.string definition.name)
        ∧ field "flags" = some (.bool definition.flags)
        ∧ field "members" = some (.array (definition.members.map EnumMember.toJson)) :=
      ⟨_, rfl, rfl, rfl, rfl⟩
    rcases known with ⟨field, known, nameField, flagsField, membersField⟩
    simp [ofJson?, known, nameField, flagsField, membersField, Json.required?, Json.orDefault?,
      Json.asBool?, faithful_string.denotes, members.denotes]

/-! ## Settings -/

theorem OutputKind.ofJson?_name (output : OutputKind) :
    ofJson? (.string output.name) = some output := by
  cases output <;> rfl

theorem TableKind.ofJson?_name (kind : TableKind) : ofJson? (.string kind.name) = some kind := by
  cases kind <;> rfl

theorem JoinSetting.faithful : Faithful 1 toJson ofJson? := by
  constructor
  · intro join
    apply ReadsBackWithin.object
    simp only [List.forall_mem_cons]
    exact ⟨.string 0 _, .string 0 _, .string 0 _, .string 0 _, .string 0 _, by simp⟩
  · intro join
    have known : ∃ field, join.toJson.fields? ["target_table", "target_key_field",
          "local_key_field", "target_list_field", "target_find_method"] = some field
        ∧ field "target_table" = some (.string join.targetTable)
        ∧ field "target_key_field" = some (.string join.targetKeyField)
        ∧ field "local_key_field" = some (.string join.localKeyField)
        ∧ field "target_list_field" = some (.string join.targetListField)
        ∧ field "target_find_method" = some (.string join.targetFinder) :=
      ⟨_, rfl, rfl, rfl, rfl, rfl, rfl⟩
    rcases known with ⟨field, known, tableField, keyField, localField, listField, finderField⟩
    simp [ofJson?, known, tableField, keyField, localField, listField, finderField,
      Json.required?, Json.orDefault?, faithful_string.denotes]

theorem SourceSpec.faithful : Faithful 1 toJson ofJson? := by
  constructor
  · intro source
    apply ReadsBackWithin.object
    simp only [List.forall_mem_cons]
    exact ⟨.string 0 _, .string 0 _, by simp⟩
  · intro source
    cases source with
    | file path => rfl
    | values path => rfl

theorem Setting.toJson_eq (setting : Setting) :
    setting.toJson = .object [
      ("class_name", .string setting.className),
      ("output", .string setting.output.name),
      ("table_kind", .string setting.tableKind.name),
      ("key_fields", .string setting.keyFields),
      ("join", Json.ofOptional JoinSetting.toJson setting.join),
      ("table_only", .bool setting.tableOnly),
      ("table_class_name", Json.ofOptionalText setting.tableClassName),
      ("table_asset_name", Json.ofOptionalText setting.tableAssetName),
      ("temp_path", Json.ofOptionalText setting.tempPath),
      ("source", Json.ofOptional SourceSpec.toJson setting.source),
      ("enum_flags", .bool setting.enumFlags)] := by
  rw [toJson]
  cases setting.join <;> cases setting.source <;> rfl

theorem Setting.faithful : Faithful 2 toJson ofJson? := by
  have joins := JoinSetting.faithful.optional fun _ => by simp [JoinSetting.toJson]
  have sources := SourceSpec.faithful.optional fun _ => by simp [SourceSpec.toJson]
  constructor
  · intro setting
    have text := fun text => (faithful_optionalText.within text).mono (Nat.zero_le 1)
    rw [toJson_eq]
    apply ReadsBackWithin.object
    simp only [List.forall_mem_cons]
    exact ⟨.string 1 _, .string 1 _, .string 1 _, .string 1 _, joins.within setting.join, .bool 1 _,
      text _, text _, text _, sources.within setting.source, .bool 1 _, by simp⟩
  · intro setting
    have known : ∃ field, setting.toJson.fields? fieldNames = some field
        ∧ field "class_name" = some (.string setting.className)
        ∧ field "output" = some (.string setting.output.name)
        ∧ field "table_kind" = some (.string setting.tableKind.name)
        ∧ field "key_fields" = some (.string setting.keyFields)
        ∧ field "join" = some (Json.ofOptional JoinSetting.toJson setting.join)
        ∧ field "table_only" = some (.bool setting.tableOnly)
        ∧ field "table_class_name" = some (Json.ofOptionalText setting.tableClassName)
        ∧ field "table_asset_name" = some (Json.ofOptionalText setting.tableAssetName)
        ∧ field "temp_path" = some (Json.ofOptionalText setting.tempPath)
        ∧ field "source" = some (Json.ofOptional SourceSpec.toJson setting.source)
        ∧ field "enum_flags" = some (.bool setting.enumFlags) := by
      rw [toJson_eq]
      exact ⟨_, rfl, rfl, rfl, rfl, rfl, rfl, rfl, rfl, rfl, rfl, rfl, rfl⟩
    rcases known with ⟨field, known, classField, outputField, kindField, keysField, joinField,
      onlyField, tableField, assetField, pathField, sourceField, flagsField⟩
    simp [ofJson?, known, classField, outputField, kindField, keysField, joinField, onlyField,
      tableField, assetField, pathField, sourceField, flagsField, Json.required?, Json.orDefault?,
      Json.asBool?, OutputKind.ofJson?_name, TableKind.ofJson?_name, faithful_string.denotes,
      faithful_optionalText.denotes, joins.denotes, sources.denotes]

/-! ## Configurations -/

theorem Config.faithful : Faithful 5 toJson ofJson? := by
  have settings := Setting.faithful.list
  have enums := EnumDef.faithful.list
  have texts := faithful_string.list
  constructor
  · intro config
    apply ReadsBackWithin.object
    simp only [List.forall_mem_cons]
    exact ⟨(settings.within _).mono (by decide), .string 4 _,
      (faithful_optionalText.within _).mono (by decide), .string 4 _, enums.within _,
      (texts.within _).mono (by decide), by simp⟩
  · intro config
    have known : ∃ field, config.toJson.fields? fieldNames = some field
        ∧ field "settings" = some (.array (config.settings.map Setting.toJson))
        ∧ field "temp_path" = some (.string config.tempPath)
        ∧ field "template_dir" = some (Json.ofOptionalText config.templateDirectory)
        ∧ field "output_dir" = some (.string config.outputDirectory)
        ∧ field "enums" = some (.array (config.enums.map EnumDef.toJson))
        ∧ field "reference_types" = some (.array (config.referenceTypes.map Json.string)) :=
      ⟨_, rfl, rfl, rfl, rfl, rfl, rfl, rfl⟩
    rcases known with ⟨field, known, settingsField, pathField, templatesField, outputField,
      enumsField, typesField⟩
    simp [ofJson?, known, settingsField, pathField, templatesField, outputField, enumsField,
      typesField, Json.orDefault?, faithful_string.denotes, faithful_optionalText.denotes,
      settings.denotes, enums.denotes, texts.denotes]

/-- The text of a configuration is read as this configuration: with all settings in their
order, what is present and what is absent in each of them, and the enumerations with and
without the values of their members. -/
theorem Config.read_write (config : Config) : Config.read config.write = .ok config := by
  have within := Config.faithful.within config
  have shallow : config.toJson.depth ≤ Json.depthLimit :=
    Nat.le_trans within.shallow (by decide)
  rw [read, write, Json.parse?_pretty within.readsBack shallow, Option.bind_some,
    Config.faithful.denotes]

end TypedSheets
