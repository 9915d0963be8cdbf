import TypedSheets.Command.Run
import TypedSheets.Proofs.Pipeline.Order
import TypedSheets.Proofs.Pipeline.Upkeep

/-!
# Converting one class

A command that asks for one class converts the enumerations, then the target of the join of
the class, if it has one, and then the sheet of the class itself. In a run over all sheets
there are other sheets before it, and other joins may have appended to the same target. They
make no difference to the output of the class, as long as no join appends to a key of its
target.
-/

namespace TypedSheets

namespace Config

/-- Whether no join appends to a key of the table that it joins into. -/
def SparesKeys (config : Config) : Prop :=
  ∀ joining ∈ config.settings, ∀ target ∈ config.settings,
    joining.Spares target.className target.keys

instance (config : Config) : Decidable config.SparesKeys :=
  inferInstanceAs (Decidable (∀ joining ∈ config.settings, ∀ target ∈ config.settings,
    joining.Spares target.className target.keys))

/-- The enumerations run before all other sheets. -/
theorem exists_ordered_eq (config : Config) : ∃ rest,
    config.ordered = config.settings.filter (fun setting => setting.output == .enum) ++ rest
      ∧ ∀ setting ∈ rest, setting.output ≠ .enum := by
  refine ⟨_, List.append_assoc _ _ _, fun setting member => ?_⟩
  rcases List.mem_append.mp member with plain | joined
  · have kept := (List.mem_filter.mp plain).2
    intro isEnum
    simp [isEnum] at kept
  · have kept := (List.mem_filter.mp joined).2
    intro isEnum
    simp [isEnum] at kept

theorem setting_ok {config : Config} {className : String} {setting : Setting}
    (found : config.setting className = .ok setting) :
    setting ∈ config.settings ∧ setting.className = className := by
  rw [Config.setting] at found
  split at found
  · next other listed =>
      obtain rfl := Except.ok.inj found
      have named := List.find?_some listed
      exact ⟨List.mem_of_find?_eq_some listed, eq_of_beq named⟩
  · cases found

end Config

namespace Pipeline

variable {pipeline typed ready before after final : Pipeline} {files : Files}
  {setting target : Setting} {settings targets : List Setting} {view : View}
  {output : ConversionOutput} {outputs made : List ConversionOutput}

/-- The settings of enumerations, which are converted first. -/
def enumSettings (pipeline : Pipeline) : List Setting :=
  pipeline.config.settings.filter fun setting => setting.output == .enum

/-! ## The two runs -/

/-- The settings that the join of a class needs: the one of the class that it names. -/
inductive Needs (config : Config) (setting : Setting) : List Setting → Prop where
  | single (noJoin : setting.join = none) : Needs config setting []
  | joined (join : JoinSetting) (target : Setting) (joins : setting.join = some join)
      (found : config.setting join.targetTable = .ok target) : Needs config setting [target]

/-- What is converted for one class: the enumerations, the target of its join, and the sheet
of the class. -/
structure Selects (pipeline : Pipeline) (files : Files) (setting : Setting) (typed : Pipeline)
    (targets : List Setting) (ready : Pipeline) (output : ConversionOutput) : Prop where
  registered : ∃ enums, pipeline.convertSettings files pipeline.enumSettings = (.ok enums, typed)
  needs : Needs pipeline.config setting targets
  prepared : ∃ made, typed.convertSettings files targets = (.ok made, ready)
  converted : ∃ after, ready.convertSetting files setting = (.ok output, after)

theorem loadEnumSheets_ok {count : Nat}
    (loaded : pipeline.loadEnumSheets files = (.ok count, typed)) :
    ∃ enums, pipeline.convertSettings files pipeline.enumSettings = (.ok enums, typed) := by
  rw [loadEnumSheets] at loaded
  split at loaded
  · next enums typed ran =>
      cases loaded
      exact ⟨enums, ran⟩
  · cases loaded

theorem needs_of_mapM {config : Config}
    (found : (setting.join.toList.map fun join => config.setting join.targetTable).mapM id
      = .ok targets) : Needs config setting targets := by
  cases joins : setting.join with
  | none =>
      rw [joins] at found
      cases found
      exact .single joins
  | some join =>
      rw [joins, Option.toList_some, List.map_singleton, List.mapM_cons, List.mapM_nil] at found
      cases named : config.setting join.targetTable with
      | error error =>
          rw [named] at found
          cases found
      | ok target =>
          rw [named] at found
          cases found
          exact .joined join target joins named

/-- A command for one class that succeeds gives the output of this class alone. -/
theorem exists_selects {className : String}
    (chosen : Command.convertChosen pipeline files (some className) = (.ok made, final)) :
    ∃ setting typed targets ready output, pipeline.config.setting className = .ok setting
      ∧ Selects pipeline files setting typed targets ready output ∧ made = [output] := by
  simp only [Command.convertChosen] at chosen
  cases found : pipeline.config.setting className with
  | error error =>
      rw [found] at chosen
      cases chosen
  | ok setting =>
      rcases loaded : pipeline.loadEnumSheets files with ⟨count, typed⟩
      rw [found, loaded] at chosen
      cases count with
      | error error => cases chosen
      | ok count =>
          rcases loadEnumSheets_ok loaded with ⟨enums, enumsRan⟩
          have config : typed.config = pipeline.config := config_convertSettings enumsRan
          simp only [config] at chosen
          cases sought : (setting.join.toList.map fun join =>
              pipeline.config.setting join.targetTable).mapM id with
          | error error =>
              rw [sought] at chosen
              cases chosen
          | ok targets =>
              rcases prepared : typed.convertSettings files targets with ⟨others, ready⟩
              rw [sought] at chosen
              simp only [prepared] at chosen
              cases others with
              | error error => cases chosen
              | ok others =>
                  rcases ran : ready.convertSettings files [setting] with ⟨result, last⟩
                  simp only [ran] at chosen
                  cases result with
                  | error error => cases chosen
                  | ok outputs =>
                      cases chosen
                      rcases convertSettings_cons_ok ran with ⟨output, after, _, converted, rest, rfl⟩
                      cases rest
                      exact ⟨setting, typed, targets, ready, output, rfl,
                        ⟨⟨enums, enumsRan⟩, needs_of_mapM sought, ⟨others, prepared⟩, _, converted⟩,
                        rfl⟩

/-- Whether a run over all sheets comes to a sheet that is no enumeration after the
enumerations and some other sheets. -/
structure TurnOf (pipeline : Pipeline) (files : Files) (outputs : List ConversionOutput)
    (setting : Setting) (typed : Pipeline) (middle : List Setting) (before : Pipeline)
    (output : ConversionOutput) : Prop where
  order : ∃ later, pipeline.config.ordered = (pipeline.enumSettings ++ middle) ++ setting :: later
  noEnums : ∀ other ∈ middle, other.output ≠ .enum
  registered : ∃ enums, pipeline.convertSettings files pipeline.enumSettings = (.ok enums, typed)
  earlier : ∃ made, typed.convertSettings files middle = (.ok made, before)
  converted : ∃ after, before.convertSetting files setting = (.ok output, after)
  listed : output ∈ outputs

theorem exists_turnOf (listed : setting ∈ pipeline.config.settings)
    (notEnum : setting.output ≠ .enum)
    (all : pipeline.convertAll files = (.ok outputs, final)) :
    ∃ typed middle before output,
      TurnOf pipeline files outputs setting typed middle before output := by
  rcases pipeline.config.exists_ordered_eq with ⟨rest, order, noEnums⟩
  have member : setting ∈ rest := by
    have inOrder := Config.mem_ordered_iff.mpr listed
    rw [order, List.mem_append, List.mem_filter, beq_iff_eq] at inOrder
    exact inOrder.resolve_left fun inEnums => notEnum inEnums.2
  rw [convertAll, order] at all
  rcases convertSettings_append_ok all with ⟨enums, typed, _, registered, restRan, rfl⟩
  rcases exists_turn restRan member with
    ⟨middle, later, made, before, output, after, _, rfl, earlier, converted, _, rfl⟩
  refine ⟨typed, middle, before, output, ⟨later, ?_⟩, ?_, ⟨enums, registered⟩, ⟨made, earlier⟩,
    ⟨after, converted⟩, ?_⟩
  · rw [order, List.append_assoc]
    rfl
  · exact fun other also => noEnums other (List.mem_append_left _ also)
  · simp

/-! ## The same types -/

theorem nodup_enumSettings (distinct : pipeline.config.DistinctClasses) :
    (pipeline.enumSettings.map Setting.className).Nodup :=
  (List.filter_sublist.map Setting.className).nodup distinct

/-- The target of the join changes no type, even if it is an enumeration. -/
theorem Selects.registry_eq (selects : Selects pipeline files setting typed targets ready output)
    (distinct : pipeline.config.DistinctClasses) : ready.registry = typed.registry := by
  rcases selects.registered with ⟨enums, registered⟩
  rcases selects.prepared with ⟨made, prepared⟩
  cases selects.needs with
  | single noJoin =>
      cases prepared
      rfl
  | joined join target joins found =>
      by_cases isEnum : target.output = .enum
      · rcases convertSettings_cons_ok prepared with ⟨_, after, _, again, rest, _⟩
        cases rest
        refine registry_of_converted_again (nodup_enumSettings distinct) registered ?_ isEnum again
        exact List.mem_filter.mpr ⟨(Config.setting_ok found).1, beq_iff_eq.mpr isEnum⟩
      · exact registry_convertSettings (by simpa using isEnum) prepared

theorem TurnOf.registry_eq {middle : List Setting}
    (turn : TurnOf pipeline files outputs setting typed middle before output) :
    before.registry = typed.registry := by
  rcases turn.earlier with ⟨made, earlier⟩
  exact registry_convertSettings turn.noEnums earlier

/-! ## The same target -/

/-- A run over settings of which none makes the table of a class leaves it out. -/
theorem get?_eq_none_of_noTable (fresh : pipeline.catalog = Index.empty)
    (distinct : pipeline.config.DistinctClasses) (targetListed : target ∈ pipeline.config.settings)
    (noTable : target.output ≠ .table)
    (inConfig : ∀ setting ∈ settings, setting ∈ pipeline.config.settings)
    (ran : pipeline.convertSettings files settings = (.ok outputs, final)) :
    final.catalog.get? target.className = none := by
  have absent : ¬final.HasTable target.className := by
    rw [hasTable_convertSettings ran]
    rintro (present | ⟨setting, member, isTable, same⟩)
    · rw [HasTable, fresh] at present
      cases present
    · obtain rfl := distinct.eq_of_className targetListed (inConfig setting member) same
      exact noTable isTable
  rwa [HasTable, Option.isSome_iff_ne_none, not_not] at absent

section Target

variable {middle : List Setting} {chosen : ConversionOutput}
  (turn : TurnOf pipeline files outputs setting typed middle before output)
  (selects : Selects pipeline files setting typed [target] ready chosen)
  (distinct : pipeline.config.DistinctClasses)

include turn

theorem TurnOf.listed_of_mem {other : Setting} (member : other ∈ pipeline.enumSettings ++ middle) :
    other ∈ pipeline.config.settings := by
  rcases turn.order with ⟨later, order⟩
  rw [← Config.mem_ordered_iff, order]
  exact List.mem_append_left _ member

include distinct

theorem TurnOf.nodup_middle : (middle.map Setting.className).Nodup := by
  rcases turn.order with ⟨later, order⟩
  have once := distinct.ordered
  rw [order] at once
  refine (List.Sublist.map Setting.className ?_).nodup once
  exact (List.sublist_append_right _ _).trans (List.sublist_append_left _ _)

/-- A run comes to the target of a join before the join, if the target is no join itself. -/
theorem TurnOf.mem_middle (notEnum : setting.output ≠ .enum) (joins : setting.isJoin = true)
    (targetListed : target ∈ pipeline.config.settings) (targetNotEnum : target.output ≠ .enum)
    (notJoin : target.isJoin = false) : target ∈ middle := by
  rcases turn.order with ⟨later, order⟩
  have different : target ≠ setting := by
    rintro rfl
    simp [joins] at notJoin
  have inFront := (Config.mem_earlier_iff distinct order targetListed targetNotEnum notEnum joins
    different).mpr (.inl notJoin)
  rw [List.mem_append, enumSettings, List.mem_filter, beq_iff_eq] at inFront
  exact inFront.resolve_left fun inEnums => targetNotEnum inEnums.2

include selects

/-- The target of a join has the same keys in both runs, if it is a table. -/
theorem exists_holds_both (spares : pipeline.config.SparesKeys) (notEnum : setting.output ≠ .enum)
    (joins : setting.isJoin = true) (targetListed : target ∈ pipeline.config.settings)
    (isTable : target.output = .table) (notJoin : target.isJoin = false) :
    ∃ table, typed.Makes files target table ∧ before.Holds target.className table
      ∧ ready.Holds target.className table := by
  rcases turn.earlier with ⟨made, earlier⟩
  rcases selects.prepared with ⟨alone, prepared⟩
  have targetNotEnum : target.output ≠ .enum := by simp [isTable]
  have inMiddle := turn.mem_middle distinct notEnum joins targetListed targetNotEnum notJoin
  have sparesMiddle : ∀ other ∈ middle, other.Spares target.className target.keys :=
    fun other member => spares other (turn.listed_of_mem (List.mem_append_right _ member)) target
      targetListed
  rcases exists_holds (turn.nodup_middle distinct) earlier turn.noEnums inMiddle isTable
    sparesMiddle with ⟨table, makes, holds⟩
  rcases exists_holds (by simp) prepared (by simpa using targetNotEnum) List.mem_cons_self isTable
    (by simpa using spares target targetListed target targetListed) with ⟨also, makesAlso, holdsAlso⟩
  obtain rfl := makes.unique makesAlso rfl
  exact ⟨table, makes, holds, holdsAlso⟩

/-- The target of a join is in no catalog of the two runs, if it is no table. -/
theorem absent_both (fresh : pipeline.catalog = Index.empty)
    (targetListed : target ∈ pipeline.config.settings) (noTable : target.output ≠ .table) :
    before.catalog.get? target.className = none ∧ ready.catalog.get? target.className = none := by
  rcases turn.registered with ⟨enums, registered⟩
  rcases turn.earlier with ⟨made, earlier⟩
  rcases selects.prepared with ⟨alone, prepared⟩
  constructor
  · exact get?_eq_none_of_noTable fresh distinct targetListed noTable
      (fun _ member => turn.listed_of_mem member) (convertSettings_append_of_ok registered earlier)
  · refine get?_eq_none_of_noTable fresh distinct targetListed noTable ?_
      (convertSettings_append_of_ok registered prepared)
    intro other member
    rcases List.mem_append.mp member with inEnums | single
    · exact (List.mem_filter.mp inEnums).1
    · exact List.mem_singleton.mp single ▸ targetListed

end Target

/-! ## The same output -/

theorem output_of_ends (notEnum : setting.output ≠ .enum)
    (ends : Ends before setting view (.ok output, after)) :
    output = before.recordsOutput setting view := by
  cases ends with
  | enumeration isEnum => exact absurd isEnum notEnum
  | converted => rfl

/-- The sheet of the class gives the same in both runs. -/
theorem recordsOutput_eq {middle : List Setting} {chosen : ConversionOutput}
    (fresh : pipeline.catalog = Index.empty) (distinct : pipeline.config.DistinctClasses)
    (spares : pipeline.config.SparesKeys) (listed : setting ∈ pipeline.config.settings)
    (notEnum : setting.output ≠ .enum)
    (configured : ∀ join, setting.join = some join → ∃ target ∈ pipeline.config.settings,
      target.className = join.targetTable ∧ target.isJoin = false)
    (turn : TurnOf pipeline files outputs setting typed middle before output)
    (selects : Selects pipeline files setting typed targets ready chosen) (view : View) :
    before.recordsOutput setting view = ready.recordsOutput setting view := by
  have types : before.registry = ready.registry :=
    turn.registry_eq.trans (selects.registry_eq distinct).symm
  cases selects.needs with
  | single noJoin => exact recordsOutput_congr types noJoin view
  | joined join target joins found =>
      rcases configured join joins with ⟨other, otherListed, otherNamed, notJoin⟩
      rcases Config.setting_ok found with ⟨targetListed, named⟩
      obtain rfl := distinct.eq_of_className targetListed otherListed (named.trans otherNamed.symm)
      by_cases isTable : target.output = .table
      · have isJoin : setting.isJoin = true := by simp [Setting.isJoin, joins]
        rcases exists_holds_both turn selects distinct spares notEnum isJoin targetListed isTable
          notJoin with ⟨table, makes, holds, also⟩
        rcases makes.shape with ⟨keys, builtIn⟩
        rw [named] at holds also
        refine recordsOutput_of_holds types joins holds also builtIn ?_ view
        rw [keys]
        exact spares setting listed target targetListed join joins named.symm
      · rcases absent_both turn selects distinct fresh targetListed isTable with ⟨absent, also⟩
        rw [named] at absent also
        exact recordsOutput_of_absent types joins absent also view

end Pipeline

namespace Command

open Pipeline

variable {config : Config} {templates : Synthesis.TemplateLocator} {files : Files}
  {setting : Setting} {outputs made : List ConversionOutput} {final last : Pipeline}

/-- Asking for one class gives the output that a run over all sheets gives for it, if no join
appends to a key of its target and the class is joined into nothing or into the table of a
setting that is no join. -/
theorem convertChosen_agrees (distinct : config.DistinctClasses) (spares : config.SparesKeys)
    (listed : setting ∈ config.settings)
    (configured : ∀ join, setting.join = some join → ∃ target ∈ config.settings,
      target.className = join.targetTable ∧ target.isJoin = false)
    (all : (ofConfig config templates).convertAll files = (.ok outputs, final))
    (chosen : convertChosen (ofConfig config templates) files (some setting.className)
      = (.ok made, last)) :
    ∃ output, made = [output] ∧ OutputOf outputs setting.className output := by
  rcases exists_selects chosen with ⟨found, typed, targets, ready, output, sought, selects, rfl⟩
  rcases Config.setting_ok sought with ⟨foundListed, named⟩
  obtain rfl := distinct.eq_of_className foundListed listed named
  refine ⟨output, rfl, ?_⟩
  rcases selects.converted with ⟨after, converted⟩
  rcases exists_sheet_of_convertSetting converted with ⟨view, read, ends⟩
  rw [← className_of_ends ends]
  apply outputOf_of_mem distinct.ordered all
  by_cases isEnum : found.output = .enum
  · rcases exists_comesTo listed all with ⟨earlier, before, _, own, comes⟩
    rcases comes.converted with ⟨afterAll, convertedAll⟩
    rcases exists_sheet_of_convertSetting convertedAll with ⟨viewAll, readAll, endsAll⟩
    obtain rfl := Except.ok.inj (readAll.symm.trans read)
    rcases comes.listed with ⟨others, rfl⟩
    rw [(enumeration_of_ends isEnum ends).1, ← (enumeration_of_ends isEnum endsAll).1]
    simp
  · rcases exists_turnOf listed isEnum all with ⟨typedAll, middle, before, own, turn⟩
    rcases turn.registered with ⟨_, registered⟩
    rcases selects.registered with ⟨_, alsoRegistered⟩
    obtain ⟨_, rfl⟩ := Prod.mk.inj (registered.symm.trans alsoRegistered)
    rcases turn.converted with ⟨afterAll, convertedAll⟩
    rcases exists_sheet_of_convertSetting convertedAll with ⟨viewAll, readAll, endsAll⟩
    obtain rfl := Except.ok.inj (readAll.symm.trans read)
    rw [output_of_ends isEnum ends, ← recordsOutput_eq rfl distinct spares listed isEnum configured
      turn selects, ← output_of_ends isEnum endsAll]
    exact turn.listed

/-- Offers that go into the shops, as items do. -/
def offerSetting : Setting :=
  { Setting.ofClass "Offer" .recordClass with
    join := some ⟨"Shop", "id", "shop_id", "offers", "Find"⟩
    source := some (.values "offers.json") }

/-- Two joins into one table. -/
def offeredConfig : Config :=
  { Config.default with settings := [offerSetting, itemSetting, shopSetting] }

def offeredFiles : Files :=
  { Files.empty with
    contents := [
      (["work", "offers.json"], "[[\"shop_id\"],[\"int\"],[7]]".toUTF8),
      (["work", "items.json"], "[[\"id\",\"shop_id\"],[\"int\",\"int\"],[1,7]]".toUTF8),
      (["work", "shops.json"],
        ("[[\"id\",\"items\",\"offers\"],[\"int\",\"Item[]\",\"Offer[]\"],"
          ++ "[7,\"\",\"\"]]").toUTF8)] }

/-- The items come out the same on their own, though a run over all sheets appends the offers
to the shops before them. -/
theorem offeredItems_agree :
    offeredConfig.DistinctClasses ∧ offeredConfig.SparesKeys
      ∧ itemSetting ∈ offeredConfig.settings
      ∧ (∀ join, itemSetting.join = some join → ∃ target ∈ offeredConfig.settings,
        target.className = join.targetTable ∧ target.isJoin = false)
      ∧ ∃ outputs final made last,
        (ofConfig offeredConfig .shipped).convertAll offeredFiles = (.ok outputs, final)
        ∧ convertChosen (ofConfig offeredConfig .shipped) offeredFiles (some itemSetting.className)
          = (.ok made, last)
        ∧ ∃ output, made = [output] ∧ OutputOf outputs itemSetting.className output := by
  have distinct : offeredConfig.DistinctClasses := by decide
  have spares : offeredConfig.SparesKeys := by decide
  have listed : itemSetting ∈ offeredConfig.settings := by decide
  have configured : ∀ join, itemSetting.join = some join → ∃ target ∈ offeredConfig.settings,
      target.className = join.targetTable ∧ target.isJoin = false := by
    intro join joins
    obtain rfl : shopJoin = join := Option.some.inj joins
    exact ⟨shopSetting, by decide, rfl, rfl⟩
  have allSucceeds : ((ofConfig offeredConfig .shipped).convertAll offeredFiles).1.isOk = true := by
    decide +kernel
  have succeeds : (convertChosen (ofConfig offeredConfig .shipped) offeredFiles
      (some itemSetting.className)).1.isOk = true := by decide +kernel
  rcases exists_ok_of_isOk allSucceeds with ⟨outputs, final, all⟩
  rcases exists_ok_of_isOk succeeds with ⟨made, last, chosen⟩
  exact ⟨distinct, spares, listed, configured, outputs, final, made, last, all, chosen,
    convertChosen_agrees distinct spares listed configured all chosen⟩

end Command

end TypedSheets
