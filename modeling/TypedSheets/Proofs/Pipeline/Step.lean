import TypedSheets.Pipeline.Basic

/-!
# How a conversion ends

The conversion of one sheet ends in one of four ways: its enumeration is registered,
its rows of names and types are missing, its own table is refused after the join was
made, or its records are there. What is said about conversions is said by cases on
these.
-/

namespace TypedSheets.Pipeline

/-- The columns that a sheet declares under the types of a pipeline. -/
def schemaOf (pipeline : Pipeline) (view : View) : Schema :=
  Schema.derive pipeline.registry view

/-- The record class of the sheet of a setting. -/
def recordTypeOf (pipeline : Pipeline) (setting : Setting) (view : View) : RecordType :=
  RecordType.ofSchema pipeline.registry setting.className (pipeline.schemaOf view) setting.isPureClass

/-- The records of the sheet of a setting. -/
def resultOf (pipeline : Pipeline) (setting : Setting) (view : View) : Materialization.Result :=
  Materialization.run pipeline.registry view (pipeline.schemaOf view)
    (pipeline.recordTypeOf setting view) setting

/-- What the join of a setting does with the records of its sheet. -/
def joinedOf (pipeline : Pipeline) (setting : Setting) (view : View) : Joined :=
  joinStep pipeline.catalog setting (pipeline.recordTypeOf setting view)
    (pipeline.resultOf setting view).records

/-- The problem of a join whose table is not there. -/
def missingIssue (join : JoinSetting) : Issue :=
  Issue.ofRun Flags.joinNoReferenceRow
    ("join target table '" ++ join.targetTable ++ "' not available")

/-- The table that a setting makes of its sheet. -/
def ownTable? (pipeline : Pipeline) (setting : Setting) (view : View) :
    Except SynthesisError (Option Table) :=
  tableOf? setting (pipeline.schemaOf view) (pipeline.recordTypeOf setting view)
    (pipeline.resultOf setting view).records

/-- What a conversion answers whose records are there. -/
def recordsOutput (pipeline : Pipeline) (setting : Setting) (view : View) : ConversionOutput :=
  let result := pipeline.resultOf setting view
  let joined := pipeline.joinedOf setting view
  let report := (Report.empty.merge result.report).merge joined.report
  let opening :=
    LogEntry.info
      ("Converting " ++ setting.className ++ " (" ++ Nat.repr view.rowCount ++ " rows)")
  { className := setting.className
    recordType := some (pipeline.recordTypeOf setting view)
    records := result.records
    enumDef := none
    join := joined.outcome
    report
    log := opening :: result.log ++ joined.log ++ [closing setting.className result.records report] }

/-- Tables with the one that a class made, if it made one. -/
def withOwn (catalog : Index Table) (className : String) : Option Table → Index Table
  | some table => catalog.insert className table
  | none => catalog

/-- The ways in which the conversion of a sheet ends. -/
inductive Ends (pipeline : Pipeline) (setting : Setting) (view : View) :
    Except PipelineError ConversionOutput × Pipeline → Prop where
  | enumeration (isEnum : setting.output = .enum) :
      Ends pipeline setting view
        (.ok (enumOutput setting (enumOfSheet setting view)),
          { pipeline with registry := pipeline.registry.registerEnum (enumOfSheet setting view) })
  | headless (notEnum : setting.output ≠ .enum) (short : view.rowCount < Schema.firstDataRow) :
      Ends pipeline setting view (.error (.missingHeader setting.className), pipeline)
  | refused (notEnum : setting.output ≠ .enum) (headed : Schema.firstDataRow ≤ view.rowCount)
      (reason : SynthesisError) (noTable : pipeline.ownTable? setting view = .error reason) :
      Ends pipeline setting view
        (.error (.synthesis reason), { pipeline with catalog := (pipeline.joinedOf setting view).catalog })
  | converted (notEnum : setting.output ≠ .enum) (headed : Schema.firstDataRow ≤ view.rowCount)
      (table : Option Table) (made : pipeline.ownTable? setting view = .ok table) :
      Ends pipeline setting view
        (.ok (pipeline.recordsOutput setting view),
          { pipeline with
            catalog := withOwn (pipeline.joinedOf setting view).catalog setting.className table })

/-- An operation that succeeds answers with a result and a state after it. -/
theorem exists_ok_of_isOk {ε α σ : Type} {outcome : Except ε α × σ}
    (succeeds : outcome.1.isOk = true) : ∃ value after, outcome = (.ok value, after) := by
  rcases outcome with ⟨result, after⟩
  cases result with
  | error error => cases succeeds
  | ok value => exact ⟨value, after, rfl⟩

/-- Every conversion ends in one of the ways. -/
theorem convertGrid_ends (pipeline : Pipeline) (setting : Setting) (view : View) :
    Ends pipeline setting view (pipeline.convertGrid setting view) := by
  simp only [convertGrid]
  by_cases isEnum : setting.output = .enum
  · rw [if_pos isEnum]
    exact .enumeration isEnum
  · rw [if_neg isEnum]
    by_cases short : view.rowCount < Schema.firstDataRow
    · rw [if_pos short]
      exact .headless isEnum short
    · rw [if_neg short]
      have headed : Schema.firstDataRow ≤ view.rowCount := Nat.le_of_not_lt short
      cases own : pipeline.ownTable? setting view with
      | error reason =>
          have ends : pipeline.convertRecords setting view = (.error (.synthesis reason),
              { pipeline with catalog := (pipeline.joinedOf setting view).catalog }) := by
            simp only [ownTable?, resultOf, recordTypeOf, schemaOf] at own
            simp only [convertRecords, own]
            rfl
          rw [ends]
          exact .refused isEnum headed reason own
      | ok table =>
          have ends : pipeline.convertRecords setting view
              = (.ok (pipeline.recordsOutput setting view), { pipeline with
                  catalog := withOwn (pipeline.joinedOf setting view).catalog setting.className
                    table }) := by
            simp only [ownTable?, resultOf, recordTypeOf, schemaOf] at own
            simp only [convertRecords, own]
            cases table <;> rfl
          rw [ends]
          exact .converted isEnum headed table own

/-- A sheet with its rows of names and types whose table can be made is converted. -/
theorem convertGrid_of_ownTable? {pipeline : Pipeline} {setting : Setting} {view : View}
    {table : Option Table} (notEnum : setting.output ≠ .enum)
    (headed : Schema.firstDataRow ≤ view.rowCount)
    (made : pipeline.ownTable? setting view = .ok table) :
    pipeline.convertGrid setting view
      = (.ok (pipeline.recordsOutput setting view),
        { pipeline with
          catalog := withOwn (pipeline.joinedOf setting view).catalog setting.className table }) := by
  have ends := convertGrid_ends pipeline setting view
  generalize pipeline.convertGrid setting view = outcome at ends ⊢
  cases ends with
  | enumeration isEnum => exact absurd isEnum notEnum
  | headless _ short => exact absurd short (Nat.not_lt.mpr headed)
  | refused _ _ reason noTable =>
      rw [made] at noTable
      cases noTable
  | converted _ _ other also =>
      rw [made] at also
      obtain rfl := Except.ok.inj also
      rfl

/-! ## What the types decide

The records of a sheet and the table that they make depend on the types alone. -/

section Types

variable {left right : Pipeline} (same : left.registry = right.registry)

include same

theorem recordTypeOf_congr : left.recordTypeOf = right.recordTypeOf := by
  funext setting view
  rw [recordTypeOf, recordTypeOf, schemaOf, schemaOf, same]

theorem resultOf_congr : left.resultOf = right.resultOf := by
  funext setting view
  rw [resultOf, resultOf, schemaOf, schemaOf, recordTypeOf_congr same, same]

theorem ownTable?_congr : left.ownTable? = right.ownTable? := by
  funext setting view
  rw [ownTable?, ownTable?, schemaOf, schemaOf, recordTypeOf_congr same, resultOf_congr same, same]

end Types

/-! ## The table of a setting -/

/-- The table that a setting makes of its sheet in a shape. -/
def tableIn (pipeline : Pipeline) (setting : Setting) (view : View) (strategy : TableStrategy) :
    Table :=
  Table.ofRecords setting.tableAsset (pipeline.recordTypeOf setting view) strategy setting.keys
    (pipeline.resultOf setting view).records

/-- The table of a setting has the shape that its keys select. -/
theorem ownTable?_eq (pipeline : Pipeline) (setting : Setting) (view : View) :
    pipeline.ownTable? setting view
      = if setting.output = .table then
          (TableStrategy.select setting ((pipeline.schemaOf view).keyFields setting.keys)).map
            fun strategy => some (pipeline.tableIn setting view strategy)
        else .ok none := rfl

/-- A table setting makes a table, and no other setting does. -/
theorem ownTable?_ok {pipeline : Pipeline} {setting : Setting} {view : View} {table : Option Table}
    (made : pipeline.ownTable? setting view = .ok table) :
    if setting.output = .table then
      ∃ strategy, TableStrategy.select setting ((pipeline.schemaOf view).keyFields setting.keys)
          = .ok strategy
        ∧ table = some (pipeline.tableIn setting view strategy)
    else table = none := by
  rw [ownTable?_eq] at made
  split at made
  · next isTable =>
      rw [if_pos isTable]
      cases selected : TableStrategy.select setting
          ((pipeline.schemaOf view).keyFields setting.keys) with
      | error error =>
          rw [selected] at made
          cases made
      | ok strategy =>
          rw [selected] at made
          exact ⟨strategy, rfl, (Except.ok.inj made).symm⟩
  · next noTable =>
      rw [if_neg noTable]
      exact (Except.ok.inj made).symm

/-- The conversion of a table setting puts the table of its sheet in. -/
theorem exists_own_of_ends {before after : Pipeline} {setting : Setting} {view : View}
    {output : ConversionOutput} (isTable : setting.output = .table)
    (ends : Ends before setting view (.ok output, after)) :
    ∃ strategy, before.ownTable? setting view = .ok (some (before.tableIn setting view strategy))
      ∧ output = before.recordsOutput setting view
      ∧ after.catalog.get? setting.className = some (before.tableIn setting view strategy) := by
  cases ends with
  | enumeration isEnum =>
      rw [isTable] at isEnum
      cases isEnum
  | converted _ _ table made =>
      have shape := ownTable?_ok made
      rw [if_pos isTable] at shape
      rcases shape with ⟨strategy, _, rfl⟩
      refine ⟨strategy, made, rfl, ?_⟩
      rw [withOwn, Index.get?_insert, if_pos rfl]

/-! ## The tables after a join -/

/-- A join changes the table that it names and no other one. -/
theorem get?_joinInto (catalog : Index Table) (className : String) (join : JoinSetting)
    (recordType : RecordType) (records : List Record) (name : String) :
    (joinInto catalog className join recordType records).catalog.get? name
      = if name = join.targetTable then
          (catalog.get? name).map fun target => (Join.run join recordType records target).2
        else catalog.get? name := by
  simp only [joinInto]
  by_cases here : name = join.targetTable
  · subst here
    cases found : catalog.get? join.targetTable with
    | none => simp [found]
    | some target => simp [found]
  · cases catalog.get? join.targetTable with
    | none => simp [here]
    | some target => simp [here]

theorem names_joinInto (catalog : Index Table) (className : String) (join : JoinSetting)
    (recordType : RecordType) (records : List Record) :
    (joinInto catalog className join recordType records).catalog.names = catalog.names := by
  simp only [joinInto]
  cases catalog.get? join.targetTable with
  | none => rfl
  | some target => exact Index.names_modify _ _ _

/-- What the join of a setting leaves of a table. -/
theorem get?_joinedOf (pipeline : Pipeline) (setting : Setting) (view : View) (name : String) :
    (pipeline.joinedOf setting view).catalog.get? name
      = match setting.join with
        | some join =>
            if name = join.targetTable then
              (pipeline.catalog.get? name).map fun target =>
                (Join.run join (pipeline.recordTypeOf setting view)
                  (pipeline.resultOf setting view).records target).2
            else pipeline.catalog.get? name
        | none => pipeline.catalog.get? name := by
  simp only [joinedOf, joinStep]
  cases setting.join with
  | none => rfl
  | some join => exact get?_joinInto _ _ _ _ _ _

theorem names_joinedOf (pipeline : Pipeline) (setting : Setting) (view : View) :
    (pipeline.joinedOf setting view).catalog.names = pipeline.catalog.names := by
  simp only [joinedOf, joinStep]
  cases setting.join with
  | none => rfl
  | some join => exact names_joinInto _ _ _ _ _

end TypedSheets.Pipeline
