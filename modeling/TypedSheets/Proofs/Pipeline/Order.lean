import TypedSheets.Proofs.Join.Conservation
import TypedSheets.Proofs.Materialization.Versions
import TypedSheets.Proofs.Pipeline.Run
import TypedSheets.Proofs.Settings.Order

/-!
# Joins and the tables they join into

A table is in the catalog once its own sheet was converted, and stays there. So when a
configuration runs, a join finds the table of another setting if that setting is no join or
is configured before it. A table whose setting is itself a join and configured later is not
there yet, which the join reports, and the run goes on.
-/

namespace TypedSheets.Pipeline

open Materialization

variable {pipeline before after final : Pipeline} {files : Files} {setting target : Setting}
  {settings : List Setting} {view : View} {output made : ConversionOutput}
  {outputs : List ConversionOutput}

/-! ## Tables in the catalog -/

/-- Whether there is a table of a name. -/
def HasTable (pipeline : Pipeline) (name : String) : Prop :=
  (pipeline.catalog.get? name).isSome = true

theorem isSome_get?_joinedOf (pipeline : Pipeline) (setting : Setting) (view : View)
    (name : String) :
    ((pipeline.joinedOf setting view).catalog.get? name).isSome
      = (pipeline.catalog.get? name).isSome := by
  rw [get?_joinedOf]
  cases setting.join with
  | none => rfl
  | some join =>
      by_cases here : name = join.targetTable
      · simp [here]
      · simp [here]

/-- A join keeps everything of a table but what its rows hold. -/
theorem exists_rows_joinedOf (setting : Setting) (view : View) {name : String} {table : Table}
    (present : pipeline.catalog.get? name = some table) :
    ∃ rows, (pipeline.joinedOf setting view).catalog.get? name
        = some { table with records := rows }
      ∧ rows.length = table.records.length := by
  rw [get?_joinedOf]
  cases setting.join with
  | none => exact ⟨table.records, present, rfl⟩
  | some join =>
      simp only [present, Option.map_some]
      split
      · have joined := Join.run_table join (pipeline.recordTypeOf setting view)
          (pipeline.resultOf setting view).records table
        exact ⟨_, congrArg some joined.1, joined.2⟩
      · exact ⟨table.records, rfl, rfl⟩

/-- A conversion adds the table of its own class, if it has one, and takes no table out. -/
theorem hasTable_of_ends (ends : Ends before setting view (.ok output, after)) (name : String) :
    after.HasTable name
      ↔ before.HasTable name ∨ (setting.output = .table ∧ name = setting.className) := by
  cases ends with
  | enumeration isEnum => simp [HasTable, isEnum]
  | converted notEnum headed table own =>
      have shape := ownTable?_ok own
      have kept := isSome_get?_joinedOf before setting view name
      split at shape
      · next isTable =>
          rcases shape with ⟨strategy, _, rfl⟩
          by_cases here : name = setting.className
          · simp [HasTable, withOwn, isTable, here]
          · simp [HasTable, withOwn, here, kept]
      · next noTable =>
          subst shape
          simp [HasTable, withOwn, noTable, kept]

/-- After a run there are the tables from before it and those of its table settings. -/
theorem hasTable_convertSettings
    (ran : pipeline.convertSettings files settings = (.ok outputs, final)) (name : String) :
    final.HasTable name ↔ pipeline.HasTable name
      ∨ ∃ setting ∈ settings, setting.output = .table ∧ name = setting.className := by
  induction settings generalizing pipeline outputs with
  | nil =>
      cases ran
      simp
  | cons setting settings ih =>
      rcases convertSettings_cons_ok ran with ⟨output, between, others, converted, rest, rfl⟩
      rcases ends_of_convertSetting converted with ⟨view, ends⟩
      rw [ih rest, hasTable_of_ends ends name, List.exists_mem_cons_iff, or_assoc]

/-- Whether the table of a setting is there as its conversion made it, up to what joins
appended to its records. -/
def Stands (pipeline : Pipeline) (setting : Setting) (made : ConversionOutput) : Prop :=
  made.className = setting.className
    ∧ ∃ table, pipeline.catalog.get? setting.className = some table
      ∧ table.name = setting.tableAsset
      ∧ made.recordType = some table.recordType
      ∧ table.keyFields = setting.keys
      ∧ table.records.length = made.records.length

theorem stands_of_ends (isTable : setting.output = .table)
    (ends : Ends before setting view (.ok output, after)) : after.Stands setting output := by
  rcases exists_own_of_ends isTable ends with ⟨strategy, _, rfl, present⟩
  exact ⟨rfl, before.tableIn setting view strategy, present, rfl, rfl, rfl, rfl⟩

/-- The table of a class stays when the sheet of another class is converted. -/
theorem Stands.of_ends (stands : before.Stands target made)
    (ends : Ends before setting view (.ok output, after))
    (different : target.className ≠ setting.className) : after.Stands target made := by
  rcases stands with ⟨named, table, present, shape⟩
  cases ends with
  | enumeration isEnum => exact ⟨named, table, present, shape⟩
  | converted notEnum headed own made =>
      rcases exists_rows_joinedOf setting view present with ⟨rows, present, sized⟩
      rcases shape with ⟨name, type, keys, count⟩
      refine ⟨named, { table with records := rows }, ?_, name, type, keys, sized.trans count⟩
      cases own with
      | none => exact present
      | some own => rw [withOwn, Index.get?_insert, if_neg different, present]

theorem Stands.convertSettings (stands : pipeline.Stands target made)
    (ran : pipeline.convertSettings files settings = (.ok outputs, final))
    (others : target.className ∉ settings.map Setting.className) : final.Stands target made := by
  induction settings generalizing pipeline outputs with
  | nil =>
      cases ran
      exact stands
  | cons setting settings ih =>
      rcases convertSettings_cons_ok ran with ⟨output, between, _, converted, rest, rfl⟩
      rcases ends_of_convertSetting converted with ⟨view, ends⟩
      rw [List.map_cons, List.mem_cons, not_or] at others
      exact ih (stands.of_ends ends others.1) rest others.2

/-- The table of every setting of a run stands at its end, if no two are of one class. -/
theorem exists_stands (distinct : (settings.map Setting.className).Nodup)
    (ran : pipeline.convertSettings files settings = (.ok outputs, final))
    (member : target ∈ settings) (isTable : target.output = .table) :
    ∃ made ∈ outputs, final.Stands target made := by
  rcases exists_turn ran member with
    ⟨front, back, _, middle, made, between, _, rfl, _, converted, restRan, rfl⟩
  rcases ends_of_convertSetting converted with ⟨view, ends⟩
  exact ⟨made, List.mem_append_right _ List.mem_cons_self,
    (stands_of_ends isTable ends).convertSettings restRan (notMem_later distinct)⟩

/-! ## What a join reports -/

/-- The message of a join whose table is not there. -/
def missingMessage (join : JoinSetting) : LogEntry :=
  LogEntry.error ("Join target '" ++ join.targetTable ++ "' has not been converted")

theorem missingMessage_ne {join : JoinSetting} {entry : LogEntry} (level : entry.level ≠ .error) :
    missingMessage join ≠ entry :=
  fun same => level (congrArg LogEntry.level same.symm)

/-- What the conversion of a join tells about its table, which is or is not there. An
enumeration is never joined. -/
structure TellsTarget (setting : Setting) (join : JoinSetting) (present : Prop)
    (output : ConversionOutput) : Prop where
  outcome : output.join.isSome = true ↔ setting.output ≠ .enum ∧ present
  message : missingMessage join ∈ output.log ↔ setting.output ≠ .enum ∧ ¬present
  issue : missingIssue join ∈ output.report.issues ↔ setting.output ≠ .enum ∧ ¬present

theorem duplicateWarnings_level {seen : List String} {records : List Record} :
    ∀ entry ∈ duplicateWarnings seen records, entry.level = .warning := by
  fun_induction duplicateWarnings seen records with
  | case1 => simp
  | case2 seen record records unnamed ih => exact ih
  | case3 seen record records name named repeated ih =>
      intro entry member
      rcases List.mem_cons.mp member with rfl | later
      · rfl
      · exact ih entry later
  | case4 seen record records name named fresh ih => exact ih

/-- Reading a sheet logs no error. -/
theorem level_of_mem_run {registry : Registry} {schema : Schema} {recordType : RecordType}
    {entry : LogEntry} (member : entry ∈ (run registry view schema recordType setting).log) :
    entry.level ≠ .error := by
  simp only [run, List.mem_append, List.mem_map, List.mem_singleton] at member
  rcases member with (⟨key, _, rfl⟩ | duplicate) | rfl
  · simp
  · simp [duplicateWarnings_level entry duplicate]
  · simp

theorem level_closing (className : String) (records : List Record) (report : Report) :
    (closing className records report).level ≠ .error := by
  rw [closing]
  split
  · simp
  · simp

/-- Only the join of a conversion may log that its table is not there. -/
theorem missingMessage_mem_iff (join : JoinSetting) (pipeline : Pipeline) (setting : Setting)
    (view : View) :
    missingMessage join ∈ (pipeline.recordsOutput setting view).log
      ↔ missingMessage join ∈ (pipeline.joinedOf setting view).log := by
  have notRead : missingMessage join ∉ (pipeline.resultOf setting view).log :=
    fun member => level_of_mem_run member rfl
  have notFirst : ∀ text, missingMessage join ≠ LogEntry.info text :=
    fun text => missingMessage_ne (by simp)
  have notLast : ∀ report, missingMessage join
      ≠ closing setting.className (pipeline.resultOf setting view).records report :=
    fun report => missingMessage_ne (level_closing _ _ report)
  simp [recordsOutput, notRead, notLast, notFirst]

/-- Only the join of a conversion may report that its table is not there. -/
theorem missingIssue_mem_iff (join : JoinSetting) (pipeline : Pipeline) (setting : Setting)
    (view : View) :
    missingIssue join ∈ (pipeline.recordsOutput setting view).report.issues
      ↔ missingIssue join ∈ (pipeline.joinedOf setting view).report.issues := by
  have notRead : missingIssue join ∉ (pipeline.resultOf setting view).report.issues := by
    intro member
    have flag : Flags.joinNoReferenceRow
        ∈ [Flags.versionMismatch, Flags.noKeySkip, Flags.emptyCell, Flags.convertFailed] :=
      flag_of_mem_run member
    revert flag
    decide
  simp [recordsOutput, Report.merge, Report.empty, notRead]

/-- A join that runs reports a missing row only with the field that it looked it up by. -/
theorem missingIssue_notMem_run (join : JoinSetting) (localType : RecordType)
    (records : List Record) (target : Table) :
    missingIssue join ∉ (Join.run join localType records target).1.report.issues := by
  by_cases present : Join.FieldsPresent join localType target.recordType
  · cases found : target.finder? join.targetFinder with
    | none =>
        simp [Join.run_of_no_finder records present found, missingIssue, Join.noFinderIssue,
          Issue.ofRun]
    | some finder =>
        rw [Join.run_of_finder present found]
        simp only [Join.outcomeOf, Report.issues_ofIssues, List.mem_append, not_or]
        constructor
        · simp [missingIssue, Join.unmatchedIssue, Issue.ofRun]
        · split
          · exact List.not_mem_nil
          · simp [missingIssue, Join.shortfallIssue, Issue.ofRun, Flags.joinNoReferenceRow,
              Flags.joinIndexMismatch]
  · simp [Join.run_of_missing_fields records present, missingIssue, Issue.ofRun,
      Flags.joinNoReferenceRow, Flags.versionMismatch]

theorem tellsTarget_of_ends {join : JoinSetting} (joins : setting.join = some join)
    (ends : Ends before setting view (.ok output, after)) :
    TellsTarget setting join (before.HasTable join.targetTable) output := by
  cases ends with
  | enumeration isEnum =>
      have other : ∀ text, missingMessage join ≠ LogEntry.success text :=
        fun text => missingMessage_ne (by simp)
      constructor
      · simp [enumOutput, isEnum]
      · simp [enumOutput, isEnum, other]
      · simp [enumOutput, isEnum, Report.empty]
  | converted notEnum headed table own =>
      cases found : before.catalog.get? join.targetTable with
      | none =>
          have joined : before.joinedOf setting view = ⟨none, Report.ofIssues [missingIssue join],
              [missingMessage join], before.catalog⟩ := by
            simp [joinedOf, joinStep, joinInto, joins, found, missingIssue, missingMessage]
          constructor
          · simp [recordsOutput, joined, HasTable, found]
          · simp [missingMessage_mem_iff, joined, HasTable, found, notEnum]
          · simp [missingIssue_mem_iff, joined, HasTable, found, notEnum]
      | some target =>
          have silent := missingIssue_notMem_run join (before.recordTypeOf setting view)
            (before.resultOf setting view).records target
          have other : ∀ text, missingMessage join ≠ LogEntry.info text :=
            fun text => missingMessage_ne (by simp)
          constructor
          · simp [recordsOutput, joinedOf, joinStep, joinInto, joins, HasTable, found, notEnum]
          · simp [missingMessage_mem_iff, joinedOf, joinStep, joinInto, joins, HasTable, found,
              other]
          · simp [missingIssue_mem_iff, joinedOf, joinStep, joinInto, joins, HasTable, found,
              silent]

/-! ## The order of a run -/

/-- Whether a run comes to the conversion of a setting, after the settings that run before
it were converted. -/
structure ComesTo (pipeline : Pipeline) (files : Files) (outputs : List ConversionOutput)
    (setting : Setting) (earlier : List Setting) (made : List ConversionOutput)
    (before : Pipeline) (output : ConversionOutput) : Prop where
  order : ∃ later, pipeline.config.ordered = earlier ++ setting :: later
  ran : pipeline.convertSettings files earlier = (.ok made, before)
  converted : ∃ after, before.convertSetting files setting = (.ok output, after)
  listed : ∃ others, outputs = made ++ output :: others

theorem exists_comesTo (member : setting ∈ pipeline.config.settings)
    (converted : pipeline.convertAll files = (.ok outputs, final)) :
    ∃ earlier made before output,
      ComesTo pipeline files outputs setting earlier made before output := by
  rcases exists_turn converted (Config.mem_ordered_iff.mpr member) with
    ⟨earlier, later, made, before, output, after, others, order, ran, own, _, rfl⟩
  exact ⟨earlier, made, before, output, ⟨later, order⟩, ran, ⟨after, own⟩, others, rfl⟩

/-- What a join finds of the table of another setting when its turn comes, and what it
tells about it. -/
structure FindsTarget (pipeline : Pipeline) (joining : Setting) (join : JoinSetting)
    (target : Setting) (earlier : List Setting) (made : List ConversionOutput)
    (before : Pipeline) (output : ConversionOutput) : Prop where
  /-- The other setting had its turn before if it is no join or is configured before. -/
  turn : joining.output ≠ .enum →
    (target ∈ earlier ↔ target.isJoin = false ∨ pipeline.config.Precedes target joining)
  /-- Then its table stands. -/
  stands : target ∈ earlier → ∃ own ∈ made, before.Stands target own
  /-- Otherwise there is a table of its name only if there was one before the run. -/
  present : before.HasTable join.targetTable
    ↔ pipeline.HasTable join.targetTable ∨ target ∈ earlier
  tells : TellsTarget joining join (before.HasTable join.targetTable) output

/-- A join into the table of another setting finds this table, and does not report that it
is missing, if the other setting is no join or is configured before. If it is a join that
is configured later, the table was not made when the join runs, and is reported as missing
unless there was one of its name before the run. -/
theorem convertAll_findsTarget {joining : Setting} {join : JoinSetting}
    (distinct : pipeline.config.DistinctClasses) (listed : joining ∈ pipeline.config.settings)
    (joins : joining.join = some join) (targetListed : target ∈ pipeline.config.settings)
    (isTable : target.output = .table) (named : target.className = join.targetTable)
    (different : target ≠ joining) (converted : pipeline.convertAll files = (.ok outputs, final)) :
    ∃ earlier made before output,
      ComesTo pipeline files outputs joining earlier made before output
        ∧ FindsTarget pipeline joining join target earlier made before output := by
  rcases exists_comesTo listed converted with ⟨earlier, made, before, output, comes⟩
  refine ⟨earlier, made, before, output, comes, ?_⟩
  rcases comes with ⟨⟨later, order⟩, ran, ⟨after, own⟩, _⟩
  have inOrder : ∀ setting ∈ earlier, setting ∈ pipeline.config.settings := by
    intro setting member
    rw [← Config.mem_ordered_iff, order]
    exact List.mem_append_left _ member
  constructor
  case turn =>
    intro notEnum
    refine Config.mem_earlier_iff distinct order targetListed ?_ notEnum ?_ different
    · simp [isTable]
    · rw [Setting.isJoin, joins, Option.isSome_some]
  case stands =>
    have once := distinct.ordered
    rw [order, List.map_append] at once
    exact fun member => exists_stands (List.nodup_append.mp once).1 ran member isTable
  case present =>
    rw [hasTable_convertSettings ran]
    apply or_congr_right
    constructor
    · rintro ⟨setting, member, _, same⟩
      obtain rfl := distinct.eq_of_className targetListed (inOrder setting member)
        (named.trans same)
      exact member
    · exact fun member => ⟨target, member, isTable, named.symm⟩
  case tells =>
    rcases ends_of_convertSetting own with ⟨view, ends⟩
    exact tellsTarget_of_ends joins ends

/-- Drops that go into the items. -/
def dropSetting : Setting :=
  { Setting.ofClass "ItemDrop" .recordClass with
    join := some Join.sampleJoin
    source := some (.values "drops.json") }

def shopJoin : JoinSetting := ⟨"Shop", "id", "shop_id", "items", "Find"⟩

/-- Items that go into the shops. -/
def itemSetting : Setting :=
  { Setting.ofClass "Item" .table with
    tableKind := .dictionary
    keyFields := "id"
    join := some shopJoin
    source := some (.values "items.json") }

def shopSetting : Setting :=
  { Setting.ofClass "Shop" .table with
    tableKind := .dictionary
    keyFields := "id"
    source := some (.values "shops.json") }

/-- A chain of joins in which each setting is configured before the one that it joins into. -/
def chainConfig : Config :=
  { Config.default with settings := [dropSetting, itemSetting, shopSetting] }

/-- A drop of an item of a shop. -/
def chainFiles : Files :=
  { Files.empty with
    contents := [
      (["work", "drops.json"], "[[\"item_id\"],[\"int\"],[1]]".toUTF8),
      (["work", "items.json"],
        ("[[\"id\",\"shop_id\",\"drops\"],[\"int\",\"int\",\"ItemDrop[]\"],"
          ++ "[1,7,\"\"]]").toUTF8),
      (["work", "shops.json"],
        "[[\"id\",\"items\"],[\"int\",\"Item[]\"],[7,\"\"]]".toUTF8)] }

/-- The classes in the order in which the chain is converted, each with whether it says that
there are no items. -/
def chainReports : Option (List (String × Bool)) :=
  ((ofConfig chainConfig .shipped).convertAll chainFiles).1.toOption.map fun outputs =>
    outputs.map fun output =>
      (output.className, decide (missingMessage Join.sampleJoin ∈ output.log))

theorem chainReports_eq :
    chainReports = some [("Shop", false), ("ItemDrop", true), ("Item", false)] := by
  decide +kernel

theorem exists_of_chainReports {reports : List (String × Bool)}
    (known : chainReports = some reports) :
    ∃ outputs final, (ofConfig chainConfig .shipped).convertAll chainFiles = (.ok outputs, final)
      ∧ ∀ report ∈ reports, ∃ output ∈ outputs, output.className = report.1
        ∧ (report.2 = true ↔ missingMessage Join.sampleJoin ∈ output.log) := by
  rw [chainReports] at known
  rcases ran : (ofConfig chainConfig .shipped).convertAll chainFiles with ⟨converted, final⟩
  rw [ran] at known
  cases converted with
  | error error => cases known
  | ok outputs =>
      obtain rfl := Option.some.inj known
      refine ⟨outputs, final, rfl, ?_⟩
      intro report member
      rcases List.mem_map.mp member with ⟨output, listed, rfl⟩
      exact ⟨output, listed, rfl, decide_eq_true_iff⟩

/-- The shops run first, though they are configured last. -/
theorem chainedShops_found :
    chainConfig.DistinctClasses ∧ itemSetting ∈ chainConfig.settings
      ∧ itemSetting.join = some shopJoin
      ∧ shopSetting ∈ chainConfig.settings ∧ shopSetting.output = .table
      ∧ shopSetting.className = shopJoin.targetTable ∧ shopSetting ≠ itemSetting
      ∧ ∃ outputs final,
        (ofConfig chainConfig .shipped).convertAll chainFiles = (.ok outputs, final)
        ∧ ∃ earlier made before output,
          ComesTo (ofConfig chainConfig .shipped) chainFiles outputs itemSetting earlier made before
            output
          ∧ FindsTarget (ofConfig chainConfig .shipped) itemSetting shopJoin shopSetting earlier
            made before output := by
  have distinct : chainConfig.DistinctClasses := by decide
  have listed : itemSetting ∈ chainConfig.settings := by decide
  have targetListed : shopSetting ∈ chainConfig.settings := by decide
  have different : shopSetting ≠ itemSetting := by decide
  rcases exists_of_chainReports chainReports_eq with ⟨outputs, final, converted, _⟩
  refine ⟨distinct, listed, rfl, targetListed, rfl, rfl, different, outputs, final, converted, ?_⟩
  exact convertAll_findsTarget distinct listed rfl targetListed rfl rfl different converted

/-- The drops run before the items, which are a table of the configuration, and report that
there are none. -/
theorem chainedItems_missing :
    chainConfig.DistinctClasses ∧ dropSetting ∈ chainConfig.settings
      ∧ dropSetting.join = some Join.sampleJoin
      ∧ itemSetting ∈ chainConfig.settings ∧ itemSetting.output = .table
      ∧ itemSetting.className = Join.sampleJoin.targetTable ∧ itemSetting ≠ dropSetting
      ∧ ∃ outputs final,
        (ofConfig chainConfig .shipped).convertAll chainFiles = (.ok outputs, final)
        ∧ ∃ output ∈ outputs, output.className = dropSetting.className
          ∧ missingMessage Join.sampleJoin ∈ output.log := by
  rcases exists_of_chainReports chainReports_eq with ⟨outputs, final, converted, reports⟩
  rcases reports ("ItemDrop", true) (by decide) with ⟨output, member, named, reported⟩
  refine ⟨by decide, by decide, rfl, by decide, rfl, rfl, by decide, outputs, final, converted, ?_⟩
  exact ⟨output, member, named, reported.mp rfl⟩

end TypedSheets.Pipeline
