import TypedSheets.Proofs.Conversion.SameTypes
import TypedSheets.Proofs.Pipeline.Order
import TypedSheets.Proofs.Table.Ascending

/-!
# Rearranged settings

A sheet that is neither an enumeration nor joined is converted from the types alone, whatever
tables there are, and adds its own table to them. So such sheets may run in any order. What
else the order of the settings decides is the order in which the types list the names of
record classes, and no conversion depends on it.
-/

namespace TypedSheets

/-! ## Types of rearranged settings -/

namespace Registry

theorem foldl_registerRecord (names : List String) (registry : Registry) :
    names.foldl registerRecord registry = { registry with records := registry.records ++ names } := by
  induction names generalizing registry with
  | nil => simp
  | cons name names ih => simp [ih, registerRecord]

end Registry

namespace Config.Rearranged

variable {config other : Config}

theorem registry (rearranged : config.Rearranged other) :
    config.registry.SameTypes other.registry := by
  rw [rearranged.rest]
  simp only [Config.registry, Registry.foldl_registerRecord]
  constructor
  case enums => rfl
  case references => rfl
  case records =>
    have classes := (rearranged.settings.filter (·.isPureClass)).map Setting.className
    exact fun name => (classes.append_left _).mem_iff

end Config.Rearranged

namespace Pipeline

variable {pipeline left right after final : Pipeline} {files : Files} {setting : Setting}
  {settings others : List Setting} {view : View} {output : ConversionOutput}
  {outputs : List ConversionOutput}

/-! ## Pipelines in which everything converts alike -/

/-- Whether two pipelines know the same types and hold the same tables. -/
structure Alike (left right : Pipeline) : Prop where
  registry : left.registry.SameTypes right.registry
  catalog : left.catalog = right.catalog

/-- Whether two conversions answer the same and leave pipelines that are alike. -/
structure EndAlike {α : Type} (left right : α × Pipeline) : Prop where
  result : left.1 = right.1
  after : left.2.Alike right.2

namespace Alike

theorem convertRecords (alike : left.Alike right) (setting : Setting) (view : View) :
    EndAlike (left.convertRecords setting view) (right.convertRecords setting view) := by
  simp only [Pipeline.convertRecords]
  rw [alike.registry.derive, alike.registry.ofSchema, alike.registry.run, alike.catalog]
  split
  · exact ⟨rfl, alike.registry, rfl⟩
  · exact ⟨rfl, alike.registry, rfl⟩

theorem convertGrid (alike : left.Alike right) (setting : Setting) (view : View) :
    EndAlike (left.convertGrid setting view) (right.convertGrid setting view) := by
  simp only [Pipeline.convertGrid]
  split
  · exact ⟨rfl, alike.registry.registerEnum _, alike.catalog⟩
  · split
    · exact ⟨rfl, alike⟩
    · exact alike.convertRecords setting view

theorem convertSetting (alike : left.Alike right) (files : Files) (setting : Setting) :
    EndAlike (left.convertSetting files setting) (right.convertSetting files setting) := by
  simp only [Pipeline.convertSetting]
  split
  · exact alike.convertGrid setting _
  · exact ⟨rfl, alike⟩

/-- Runs over the same settings end alike. -/
theorem convertSettings (alike : left.Alike right)
    (ran : left.convertSettings files settings = (.ok outputs, final)) :
    ∃ last, right.convertSettings files settings = (.ok outputs, last) ∧ final.Alike last := by
  induction settings generalizing left right outputs with
  | nil =>
      cases ran
      exact ⟨right, rfl, alike⟩
  | cons setting settings ih =>
      rcases convertSettings_cons_ok ran with ⟨output, between, others, converted, rest, rfl⟩
      have first := alike.convertSetting files setting
      rw [converted] at first
      rcases also : right.convertSetting files setting with ⟨result, next⟩
      rw [also] at first
      obtain rfl := first.result
      rcases ih first.after rest with ⟨last, ran, ended⟩
      exact ⟨last, convertSettings_cons_of_ok also ran, ended⟩

end Alike

/-! ## Sheets that are neither enumerations nor joined -/

/-- Whether the sheet of a setting gives an output and a table under given types, whatever
tables there are. -/
def Gives (registry : Registry) (files : Files) (setting : Setting) (output : ConversionOutput)
    (table : Option Table) : Prop :=
  ∀ pipeline : Pipeline, pipeline.registry = registry →
    pipeline.convertSetting files setting
      = (.ok output,
        { pipeline with catalog := withOwn pipeline.catalog setting.className table })

theorem exists_gives (plain : setting.IsPlain)
    (converted : pipeline.convertSetting files setting = (.ok output, after)) :
    ∃ table, Gives pipeline.registry files setting output table := by
  rcases plain with ⟨notEnum, single⟩
  rcases exists_sheet_of_convertSetting converted with ⟨view, read, ends⟩
  cases ends with
  | enumeration isEnum => exact absurd isEnum notEnum
  | converted _ headed table made =>
      refine ⟨table, fun other same => ?_⟩
      have also : other.ownTable? setting view = .ok table := by
        rw [ownTable?_congr same, made]
      rw [convertSetting, read]
      simp only [convertGrid_of_ownTable? notEnum headed also, recordsOutput, joinedOf, joinStep,
        single, recordTypeOf_congr same, resultOf_congr same]

theorem withOwn_comm {first second : String} (different : first ≠ second) (catalog : Index Table)
    (one other : Option Table) :
    withOwn (withOwn catalog second other) first one
      = withOwn (withOwn catalog first one) second other := by
  cases one with
  | none => rfl
  | some one =>
      cases other with
      | none => rfl
      | some other => exact Index.insert_comm different catalog one other

/-- Sheets that are neither enumerations nor joined may run in any order. -/
theorem exists_convertSettings_of_perm (perm : settings.Perm others)
    (plain : ∀ setting ∈ settings, setting.IsPlain)
    (distinct : (settings.map Setting.className).Nodup)
    (ran : pipeline.convertSettings files settings = (.ok outputs, final)) :
    ∃ made, pipeline.convertSettings files others = (.ok made, final) ∧ outputs.Perm made := by
  induction perm generalizing pipeline outputs with
  | nil => exact ⟨outputs, ran, .refl outputs⟩
  | @cons setting settings others _ ih =>
      rcases convertSettings_cons_ok ran with ⟨output, between, _, converted, rest, rfl⟩
      rcases ih (fun other member => plain other (List.mem_cons_of_mem _ member))
        (List.nodup_cons.mp distinct).2 rest with ⟨made, ran, same⟩
      exact ⟨output :: made, convertSettings_cons_of_ok converted ran, same.cons output⟩
  | swap second first settings =>
      rcases convertSettings_cons_ok ran with ⟨one, between, _, firstConverted, firstRest, rfl⟩
      rcases convertSettings_cons_ok firstRest with ⟨other, next, outputs, secondConverted, rest, rfl⟩
      have firstPlain : first.IsPlain := plain first List.mem_cons_self
      have secondPlain : second.IsPlain := plain second (List.mem_cons_of_mem _ List.mem_cons_self)
      have different : first.className ≠ second.className := by
        intro same
        simp [same] at distinct
      rcases exists_gives firstPlain firstConverted with ⟨table, gives⟩
      obtain ⟨_, rfl⟩ := Prod.mk.inj (firstConverted.symm.trans (gives pipeline rfl))
      rcases exists_gives secondPlain secondConverted with ⟨also, givesAlso⟩
      obtain ⟨_, rfl⟩ := Prod.mk.inj (secondConverted.symm.trans (givesAlso _ rfl))
      simp only [withOwn_comm different.symm] at rest
      exact ⟨_, convertSettings_cons_of_ok (givesAlso pipeline rfl)
        (convertSettings_cons_of_ok (gives _ rfl) rest), .swap other one outputs⟩
  | trans front _ ihFront ihBack =>
      rcases ihFront plain distinct ran with ⟨between, ran, same⟩
      rcases ihBack (fun setting member => plain setting (front.mem_iff.mpr member))
        ((front.map Setting.className).nodup_iff.mp distinct) ran with ⟨made, ran, also⟩
      exact ⟨made, ran, same.trans also⟩

/-! ## Whole runs -/

variable {config other : Config} {templates : Synthesis.TemplateLocator}

theorem exists_convertAll_rearranged (distinct : config.DistinctClasses)
    (rearranged : config.Rearranged other)
    (converted : (ofConfig config templates).convertAll files = (.ok outputs, final)) :
    ∃ made last, (ofConfig other templates).convertAll files = (.ok made, last)
      ∧ outputs.Perm made ∧ final.Alike last := by
  rcases rearranged.ordered with ⟨enums, front, back, joins, order, otherOrder, perm, plain⟩
  have once := distinct.ordered
  change (ofConfig config templates).convertSettings files config.ordered = _ at converted
  rw [order] at converted once
  rw [List.append_assoc] at converted
  rcases convertSettings_append_ok converted with ⟨enumOutputs, typed, _, enumsRan, rest, rfl⟩
  rcases convertSettings_append_ok rest with ⟨plainOutputs, filled, joinOutputs, ran, joinsRan, rfl⟩
  -- The other run starts with the same types but for the order of names of record classes.
  have start : (ofConfig config templates).Alike (ofConfig other templates) :=
    ⟨rearranged.registry, rfl⟩
  rcases start.convertSettings enumsRan with ⟨otherTyped, otherEnumsRan, typedAlike⟩
  rcases typedAlike.convertSettings ran with ⟨otherFilled, sameRan, filledAlike⟩
  have frontOnce : (front.map Setting.className).Nodup := by
    rw [List.map_append, List.map_append] at once
    exact (List.nodup_append.mp (List.nodup_append.mp once).1).2.1
  rcases exists_convertSettings_of_perm perm plain frontOnce sameRan with ⟨made, otherRan, same⟩
  rcases filledAlike.convertSettings joinsRan with ⟨last, otherJoinsRan, ended⟩
  refine ⟨enumOutputs ++ (made ++ joinOutputs), last, ?_, ?_, ended⟩
  · change (ofConfig other templates).convertSettings files other.ordered = _
    rw [otherOrder, List.append_assoc]
    exact convertSettings_append_of_ok otherEnumsRan
      (convertSettings_append_of_ok otherRan otherJoinsRan)
  · exact (same.append_right joinOutputs).append_left enumOutputs

theorem isOk_convertAll_rearranged (distinct : config.DistinctClasses)
    (rearranged : config.Rearranged other)
    (succeeds : ((ofConfig config templates).convertAll files).1.isOk = true) :
    ((ofConfig other templates).convertAll files).1.isOk = true := by
  rcases exists_ok_of_isOk succeeds with ⟨outputs, final, ran⟩
  rcases exists_convertAll_rearranged distinct rearranged ran with ⟨made, last, also, _⟩
  rw [also]
  rfl

/-- Rearranging sheets that are neither enumerations nor joined changes nothing: the run
succeeds as it did before, with the same tables and the same output for every class. -/
theorem convertAll_rearranged (distinct : config.DistinctClasses)
    (rearranged : config.Rearranged other) (templates : Synthesis.TemplateLocator) (files : Files) :
    ((ofConfig config templates).convertAll files).1.isOk
        = ((ofConfig other templates).convertAll files).1.isOk
      ∧ ∀ outputs final made last,
        (ofConfig config templates).convertAll files = (.ok outputs, final) →
        (ofConfig other templates).convertAll files = (.ok made, last) →
          final.catalog = last.catalog
            ∧ ∀ setting ∈ config.settings, ∃ output, OutputOf outputs setting.className output
              ∧ OutputOf made setting.className output := by
  constructor
  · rw [Bool.eq_iff_iff]
    constructor
    · exact isOk_convertAll_rearranged distinct rearranged
    · exact isOk_convertAll_rearranged (rearranged.distinct distinct) rearranged.symm
  · intro outputs final made last ran otherRan
    rcases exists_convertAll_rearranged distinct rearranged ran with ⟨_, _, also, perm, ended⟩
    obtain ⟨sameMade, rfl⟩ := Prod.mk.inj (otherRan.symm.trans also)
    obtain rfl := Except.ok.inj sameMade
    refine ⟨ended.catalog, fun setting listed => ?_⟩
    rcases exists_outputOf distinct.ordered ran (Config.mem_ordered_iff.mpr listed) with
      ⟨output, own⟩
    exact ⟨output, own, own.of_perm perm⟩

/-- Notes that belong to nothing. -/
def noteSetting : Setting :=
  { Setting.ofClass "Note" .recordClass with source := some (.values "notes.json") }

/-- The chain of joins with notes, in the order of some settings. -/
def notedConfig (settings : List Setting) : Config :=
  { chainConfig with settings }

def notedFiles : Files :=
  { chainFiles with
    contents := (["work", "notes.json"], "[[\"text\"],[\"string\"],[\"sold out\"]]".toUTF8)
      :: chainFiles.contents }

theorem notedChain_rearranged :
    let config := notedConfig [dropSetting, itemSetting, shopSetting, noteSetting]
    let other := notedConfig [noteSetting, dropSetting, shopSetting, itemSetting]
    config.DistinctClasses ∧ config.Rearranged other
      ∧ ∃ outputs final made last,
        (ofConfig config .shipped).convertAll notedFiles = (.ok outputs, final)
        ∧ (ofConfig other .shipped).convertAll notedFiles = (.ok made, last)
        ∧ final.catalog = last.catalog
        ∧ ∀ setting ∈ config.settings, ∃ output, OutputOf outputs setting.className output
          ∧ OutputOf made setting.className output := by
  intro config other
  have distinct : config.DistinctClasses := by decide
  have rearranged : config.Rearranged other := by decide
  have succeeds : ((ofConfig config .shipped).convertAll notedFiles).1.isOk = true := by
    decide +kernel
  rcases convertAll_rearranged distinct rearranged .shipped notedFiles with ⟨alike, same⟩
  rcases exists_ok_of_isOk succeeds with ⟨outputs, final, ran⟩
  rcases exists_ok_of_isOk (alike ▸ succeeds) with ⟨made, last, otherRan⟩
  exact ⟨distinct, rearranged, outputs, final, made, last, ran, otherRan,
    same outputs final made last ran otherRan⟩

end Pipeline

end TypedSheets
