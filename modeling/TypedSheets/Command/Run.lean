import TypedSheets.Command.Basic
import TypedSheets.Command.Console
import TypedSheets.Environment
import TypedSheets.Grid.Delimited
import TypedSheets.Pipeline.Generation
import TypedSheets.Pipeline.Persistence
import TypedSheets.Settings.Loading

/-!
# Running commands

What each command does with files and writes to the console, and the exit code that a
whole command line ends with.
-/

namespace TypedSheets.Command

open Job (files setFiles print note succeed makeDirectories writeFile)

/-- What a command finds around it besides files. -/
structure Context where
  environment : Environment
  /-- The time that assets are stored with. -/
  now : String

/-- The variable with the directory of templates. -/
def templateVariable : String := "SHEETFORGE_TEMPLATE_DIR"

/-- Where the templates of a configuration are looked for: in its own directory or the
one of the environment, then among the shipped ones. -/
def templatesOf (context : Context) (config : Config) : Synthesis.TemplateLocator :=
  ⟨config.templateDirectory.or (context.environment.get? templateVariable), .shipped⟩

/-- Read a configuration. -/
def loadConfig (path : String) : Job Config := do
  succeed ConfigError.message (Config.load (← files) path)

/-- Announce and read a configuration. -/
def openConfig (path : String) : Job Config := do
  note ("📄 Loading configuration: " ++ path)
  loadConfig path

/-- Write text to a file or else to the output. -/
def deliver (text : String) : Option String → Job Unit
  | some path => do
      writeFile path text
      note ("💾 Output written to: " ++ path)
  | none => print text

/-- The store that a command works on. -/
def openStore (directory : Option String) : Job Store :=
  return Store.ofDirectory (← files) (directory.getD Store.defaultDirectory)

/-! ## Conversion -/

/-- Convert the sheets that are asked for: all, or those of one class after what it
depends on, which are the enumerations and the target of its join. -/
def convertChosen (pipeline : Pipeline) (files : Files) :
    Option String → Except String (List ConversionOutput) × Pipeline
  | none =>
      let (result, pipeline) := pipeline.convertAll files
      (result.mapError PipelineError.message, pipeline)
  | some className =>
      match pipeline.config.setting className with
      | .error error => (.error error.message, pipeline)
      | .ok setting =>
          match pipeline.loadEnumSheets files with
          | (.error error, pipeline) => (.error error.message, pipeline)
          | (.ok _, pipeline) =>
              let targets := setting.join.toList.map fun join => pipeline.config.setting join.targetTable
              match targets.mapM id with
              | .error error => (.error error.message, pipeline)
              | .ok targets =>
                  match pipeline.convertSettings files targets with
                  | (.error error, pipeline) => (.error error.message, pipeline)
                  | (.ok _, pipeline) =>
                      let (result, pipeline) := pipeline.convertSettings files [setting]
                      (result.mapError PipelineError.message, pipeline)

/-- Write the report of an output to its place. -/
def writeReport (config : Config) (output : ConversionOutput) : Job Unit := do
  let setting ← succeed ConfigError.message (config.setting output.className)
  let directory := config.tempPathOf setting
  makeDirectories directory
  let path := Path.join directory (output.className ++ ".report.json")
  writeFile path output.report.toJson.pretty
  note ("💾 Report written to: " ++ path)

/-- Show what a conversion made. -/
def showOutput (config : Config) (report : Bool) (output : ConversionOutput) : Job Unit := do
  note ""
  output.log.forM fun entry => note entry.render
  print output.summary
  if report then writeReport config output

/-- Convert sheets and store what they make. -/
def convertSheets (context : Context) (configPath : String) (className store : Option String)
    (dryRun report : Bool) : Job Unit := do
  let config ← openConfig configPath
  let pipeline := Pipeline.ofConfig config (templatesOf context config)
  let (result, pipeline) := convertChosen pipeline (← files) className
  let outputs ← succeed id result
  outputs.forM (showOutput config report)
  note ""
  let converted := "✅ Converted " ++ Nat.repr outputs.length ++ " settings"
  if dryRun then note (converted ++ " (dry run, nothing stored)")
  else
    let store ← openStore store
    let (saved, changed, store) := pipeline.persist context.now outputs (← files) store
    setFiles changed
    let saved ← succeed PipelineError.message saved
    note (converted ++ ", stored " ++ Nat.repr saved ++ " assets in " ++ store.directory)
  let problems := outputs.foldl (fun count output => count + output.log.problemCount) 0
  if 0 < problems then note ("⚠️  " ++ Nat.repr problems ++ " warnings or errors logged")

/-! ## Generation -/

/-- Write a generated source into a directory. -/
def writeSource (directory : String) (source : GeneratedSource) : Job Unit := do
  let path := Path.join directory source.fileName
  if source.text = "" then note ("⚠️  " ++ source.fileName ++ " is empty (template missing?)")
  writeFile path source.text
  note ("   " ++ path)

/-- Write the sources of a configuration. -/
def generateSources (context : Context) (configPath : String) (output : Option String) :
    Job Unit := do
  let config ← openConfig configPath
  let directory := output.getD config.outputDirectory
  let pipeline := Pipeline.ofConfig config (templatesOf context config)
  let sources ← succeed PipelineError.message (pipeline.generateAll (← files)).1
  makeDirectories directory
  sources.forM (writeSource directory)
  note ("✅ Generated " ++ Nat.repr sources.length ++ " source files in " ++ directory)

/-! ## Sheets and configurations -/

/-- The line of a column in the list of fields. -/
def fieldLine (field : FieldSchema) : String :=
  "   " ++ (if field.isValid then "✓" else "✗") ++ " " ++ padded 24 field.name ++ " "
    ++ field.declaredType ++ (if field.isArrayElement then " (array element)" else "")

/-- A delimiter as it is shown. -/
def delimiterText (delimiter : Char) : String :=
  if delimiter = '\t' then "\\t" else String.singleton delimiter

/-- Show a sheet and its fields. -/
def showSheetAt (input : String) (config output : Option String) : Job Unit := do
  note ("📄 Parsing sheet: " ++ input)
  let sheet ← succeed SourceError.message ((← files).readSheet input)
  note ("   Encoding: " ++ sheet.encoding)
  note ("   Delimiter: '" ++ delimiterText sheet.delimiter ++ "'")
  note ("   Size: " ++ Nat.repr sheet.grid.rowCount ++ " rows x " ++ Nat.repr sheet.grid.columnCount
    ++ " columns")
  let config ← match config with
    | some path => loadConfig path
    | none => pure Config.default
  note "\n📋 Fields:"
  (Schema.derive config.registry sheet.grid.view).forM fun field => note (fieldLine field)
  note ""
  deliver (Delimited.write sheet.grid.view) output

/-- What a setting makes, as it is listed. -/
def outputText (setting : Setting) : String :=
  match setting.output with
  | .table => "table (" ++ setting.tableClass ++ ")"
  | other => other.name

/-- List a setting and its join. -/
def listSetting (setting : Setting) : Job Unit := do
  let source := (setting.source.map SourceSpec.path).getD "no source"
  note ("   " ++ padded 20 setting.className ++ " " ++ padded 28 (outputText setting) ++ " " ++ source)
  match setting.join with
  | some join =>
      note ("      join " ++ setting.className ++ "." ++ join.localKeyField ++ " -> "
        ++ join.targetTable ++ "." ++ join.targetListField ++ " via " ++ join.targetFinder)
  | none => pure ()

/-- Read a configuration and list its settings. -/
def checkConfigAt (path : String) : Job Unit := do
  let config ← loadConfig path
  note ("📋 " ++ Nat.repr config.settings.length ++ " settings in " ++ path ++ ":\n")
  config.settings.forM listSetting
  note "\n✅ Configuration is valid"

/-! ## Assets -/

/-- The line of an asset in a listing. -/
def assetLine (asset : Asset) : String :=
  "   " ++ padded 32 asset.name ++ " " ++ asset.kind.label ++ " " ++ asset.className ++ " ("
    ++ Nat.repr asset.records.length ++ " records, " ++ asset.savedAt ++ ")"

/-- List the assets of a store. -/
def listStore (directory : Option String) : Job Unit := do
  let store ← openStore directory
  if store.list.isEmpty then
    note "📋 No assets stored yet."
    note "   Use 'sheetforge convert' to create some."
  else
    note ("📋 Stored assets (" ++ Nat.repr store.list.length ++ "):\n")
    store.list.forM fun asset => note (assetLine asset)

/-- Show an asset of a store. -/
def showStored (directory : Option String) (name : String) : Job Unit := do
  let store ← openStore directory
  let asset ← succeed StoreError.message (store.load name)
  print asset.write

/-- Delete an asset of a store. -/
def deleteStored (directory : Option String) (name : String) : Job Unit := do
  let store ← openStore directory
  let (result, changed, _) := store.delete (← files) name
  setFiles changed
  succeed StoreError.message result
  note ("🗑️  Deleted asset: " ++ name)

/-! ## Command lines -/

/-- Do what a command asks for. -/
def run (context : Context) : Command → Job Unit
  | .convert config className store dryRun report =>
      convertSheets context config className store dryRun report
  | .generate config output => generateSources context config output
  | .showSheet input config output => showSheetAt input config output
  | .writeSample output => deliver Config.sample.write output
  | .checkConfig config => checkConfigAt config
  | .listAssets store => listStore store
  | .showAsset store name => showStored store name
  | .deleteAsset store name => deleteStored store name

/-- How a command line ended. -/
structure Execution where
  code : Nat
  output : String
  messages : String
  files : Files

/-- The forms of command lines. -/
def usage : String :=
  "Usage: sheetforge convert [-c FILE] [--class NAME] [-s DIR] [--dry-run] [--report]\n" ++
  "       sheetforge codegen [-c FILE] [-o DIR]\n" ++
  "       sheetforge show FILE [-c FILE] [-o FILE]\n" ++
  "       sheetforge settings example [-o FILE]\n" ++
  "       sheetforge settings check [-c FILE]\n" ++
  "       sheetforge assets [-s DIR] (list | show NAME | delete NAME)\n"

/-- What comes of arguments that are no command. -/
def refuse (files : Files) : UsageError → Execution
  | .helpRequested => ⟨0, usage, "", files⟩
  | error => ⟨2, "", "error: " ++ error.message ++ "\n\n" ++ usage, files⟩

/-- Run a command line. An error that stops it is the last message. -/
def execute (context : Context) (arguments : List String) (files : Files) : Execution :=
  let context := { context with environment := context.environment.extended files }
  match parse arguments with
  | .error error => refuse files error
  | .ok command =>
      match (run context command).run ⟨files, "", ""⟩ with
      | (.ok _, console) => ⟨0, console.output, console.messages, console.files⟩
      | (.error error, console) =>
          ⟨1, console.output, console.messages ++ "❌ Error: " ++ error ++ "\n", console.files⟩

end TypedSheets.Command
