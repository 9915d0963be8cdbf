import TypedSheets.Conversion.Materialization
import TypedSheets.Files.Source
import TypedSheets.Store.Basic
import TypedSheets.Synthesis.Members
import TypedSheets.Synthesis.Source
import TypedSheets.Table.Join

/-!
# Pipelines

The conversion of sheets under a configuration, one setting at a time. A pipeline
keeps the types registered so far and the tables made so far; what a setting makes
depends on them and may add to them. Every operation answers with its result and the
pipeline after it, also where it fails.
-/

namespace TypedSheets

/-- Why a run stops. -/
inductive PipelineError where
  | missingHeader (className : String)
  | synthesis (error : SynthesisError)
  | source (error : SourceError)
  | config (error : ConfigError)
  | store (error : StoreError)
deriving DecidableEq

/-- The text of an error. -/
def PipelineError.message : PipelineError → String
  | .missingHeader className => "Sheet for '" ++ className ++ "' has no header and type rows"
  | .synthesis error => "Synthesis error: " ++ error.message
  | .source error => "Provider error: " ++ error.message
  | .config error => "Configuration error: " ++ error.message
  | .store error => "Store error: " ++ error.message

/-- What the conversion of one sheet made. -/
structure ConversionOutput where
  className : String
  recordType : Option RecordType
  /-- The records as they were read, without what joins append later. -/
  records : List Record
  /-- The enumeration of an enumeration setting. -/
  enumDef : Option EnumDef
  join : Option Join.Outcome
  report : Report
  log : RunLog

/-- One line about the output of a conversion. -/
def ConversionOutput.summary (output : ConversionOutput) : String :=
  match output.enumDef with
  | some definition =>
      output.className ++ ": enum with " ++ Nat.repr definition.members.length ++ " members"
  | none =>
      output.className ++ ": " ++ Nat.repr output.records.length ++ " records, "
        ++ output.report.summary

/-- A configuration in use. -/
structure Pipeline where
  config : Config
  registry : Registry
  templates : Synthesis.TemplateLocator
  /-- The tables made so far, by record class. -/
  catalog : Index Table

namespace Pipeline

/-- The pipeline of a configuration before anything was converted. -/
def ofConfig (config : Config) (templates : Synthesis.TemplateLocator) : Pipeline :=
  { config, registry := config.registry, templates, catalog := Index.empty }

/-- The enumeration that the sheet of an enumeration setting defines. -/
def enumOfSheet (setting : Setting) (view : View) : EnumDef :=
  EnumDef.normalized
    { name := setting.className, flags := setting.enumFlags, members := EnumMember.ofSheet view }

/-- What a conversion makes of an enumeration sheet. -/
def enumOutput (setting : Setting) (definition : EnumDef) : ConversionOutput :=
  { className := setting.className
    recordType := none
    records := []
    enumDef := some definition
    join := none
    report := Report.empty
    log := [LogEntry.success
      (setting.className ++ ": " ++ Nat.repr definition.members.length ++ " enum members")] }

/-- What the join of a setting did: its outcome, the problems, the messages, and the
tables after it. -/
structure Joined where
  outcome : Option Join.Outcome
  report : Report
  log : List LogEntry
  catalog : Index Table

/-- Join records into the table that a setting names. -/
def joinInto (catalog : Index Table) (className : String) (join : JoinSetting)
    (recordType : RecordType) (records : List Record) : Joined :=
  match catalog.get? join.targetTable with
  | some target =>
      let (outcome, joined) := Join.run join recordType records target
      { outcome := some outcome
        report := outcome.report
        log := [LogEntry.info
          ("Joined " ++ Nat.repr outcome.resolved ++ " of " ++ Nat.repr outcome.processed ++ " "
            ++ className ++ " records into " ++ target.name)]
        catalog := catalog.modify join.targetTable fun _ => joined }
  | none =>
      { outcome := none
        report := Report.ofIssues [Issue.ofRun Flags.joinNoReferenceRow
          ("join target table '" ++ join.targetTable ++ "' not available")]
        log := [LogEntry.error ("Join target '" ++ join.targetTable ++ "' has not been converted")]
        catalog }

/-- What the join of a setting did, if it has one. -/
def joinStep (catalog : Index Table) (setting : Setting) (recordType : RecordType)
    (records : List Record) : Joined :=
  match setting.join with
  | some join => joinInto catalog setting.className join recordType records
  | none => { outcome := none, report := Report.empty, log := [], catalog }

/-- The table of a table setting. -/
def tableOf? (setting : Setting) (schema : Schema) (recordType : RecordType)
    (records : List Record) : Except SynthesisError (Option Table) :=
  if setting.output = .table then
    (TableStrategy.select setting (schema.keyFields setting.keys)).map fun strategy =>
      some (Table.ofRecords setting.tableAsset recordType strategy setting.keys records)
  else .ok none

/-- The message that closes a conversion. -/
def closing (className : String) (records : List Record) (report : Report) : LogEntry :=
  if report.flags.any then LogEntry.warning (className ++ ": " ++ report.summary)
  else LogEntry.success (className ++ ": " ++ Nat.repr records.length ++ " records")

/-- Convert a sheet of records whose rows of names and types are there. The join comes
before the table of the setting itself. -/
def convertRecords (pipeline : Pipeline) (setting : Setting) (view : View) :
    Except PipelineError ConversionOutput × Pipeline :=
  let className := setting.className
  let schema := Schema.derive pipeline.registry view
  let recordType := RecordType.ofSchema pipeline.registry className schema setting.isPureClass
  let result := Materialization.run pipeline.registry view schema recordType setting
  let joined := joinStep pipeline.catalog setting recordType result.records
  let report := (Report.empty.merge result.report).merge joined.report
  match tableOf? setting schema recordType result.records with
  | .error error => (.error (.synthesis error), { pipeline with catalog := joined.catalog })
  | .ok table =>
      let catalog :=
        match table with
        | some table => joined.catalog.insert className table
        | none => joined.catalog
      let opening :=
        LogEntry.info ("Converting " ++ className ++ " (" ++ Nat.repr view.rowCount ++ " rows)")
      (.ok
        { className
          recordType := some recordType
          records := result.records
          enumDef := none
          join := joined.outcome
          report
          log := opening :: result.log ++ joined.log ++ [closing className result.records report] },
        { pipeline with catalog })

/-- Convert one sheet. An enumeration is registered, a table is added to the
catalog. -/
def convertGrid (pipeline : Pipeline) (setting : Setting) (view : View) :
    Except PipelineError ConversionOutput × Pipeline :=
  if setting.output = .enum then
    let definition := enumOfSheet setting view
    (.ok (enumOutput setting definition),
      { pipeline with registry := pipeline.registry.registerEnum definition })
  else if view.rowCount < Schema.firstDataRow then
    (.error (.missingHeader setting.className), pipeline)
  else pipeline.convertRecords setting view

/-- The view of the sheet of a setting. -/
def sheetOf (files : Files) (setting : Setting) : Except PipelineError View :=
  match setting.source with
  | none => .error (.config (.missingSource setting.className))
  | some source =>
      match source.view files with
      | .ok view => .ok view
      | .error error => .error (.source error)

/-- Read the sheet of a setting and convert it. -/
def convertSetting (pipeline : Pipeline) (files : Files) (setting : Setting) :
    Except PipelineError ConversionOutput × Pipeline :=
  match sheetOf files setting with
  | .ok view => pipeline.convertGrid setting view
  | .error error => (.error error, pipeline)

/-- Convert the sheets of settings one after the other, up to the first failure. -/
def convertSettings (pipeline : Pipeline) (files : Files) :
    List Setting → Except PipelineError (List ConversionOutput) × Pipeline
  | [] => (.ok [], pipeline)
  | setting :: settings =>
      match pipeline.convertSetting files setting with
      | (.error error, pipeline) => (.error error, pipeline)
      | (.ok output, pipeline) =>
          match convertSettings pipeline files settings with
          | (.error error, pipeline) => (.error error, pipeline)
          | (.ok outputs, pipeline) => (.ok (output :: outputs), pipeline)

/-- Convert every configured sheet in run order. -/
def convertAll (pipeline : Pipeline) (files : Files) :
    Except PipelineError (List ConversionOutput) × Pipeline :=
  pipeline.convertSettings files pipeline.config.ordered

/-- Read and register every enumeration sheet; answers how many there are. -/
def loadEnumSheets (pipeline : Pipeline) (files : Files) : Except PipelineError Nat × Pipeline :=
  let settings := pipeline.config.settings.filter fun setting => setting.output == .enum
  match pipeline.convertSettings files settings with
  | (.ok outputs, pipeline) => (.ok outputs.length, pipeline)
  | (.error error, pipeline) => (.error error, pipeline)

end Pipeline

end TypedSheets
