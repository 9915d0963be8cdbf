import TypedSheets.Pipeline.Basic

/-!
# Source generation

The source files that a configuration makes out of the headings of its sheets: a class
for each record class, one more for each table, and one for each enumeration.
-/

namespace TypedSheets

/-- A generated file. -/
structure GeneratedSource where
  fileName : String
  text : String
deriving DecidableEq

namespace Pipeline

/-- The file of a class. -/
def sourceFile (className : String) : String := className ++ ".cs"

/-- The members of an enumeration setting: those registered under exactly its name,
else those of the sheet. -/
def generatedMembers (pipeline : Pipeline) (setting : Setting) (view : View) : List EnumMember :=
  let ofSheet :=
    (EnumDef.normalized ⟨setting.className, false, EnumMember.ofSheet view⟩).members
  match pipeline.registry.lookupEnum? setting.className with
  | some definition => if definition.name = setting.className then definition.members else ofSheet
  | none => ofSheet

/-- The source files of one sheet. -/
def generateSources (pipeline : Pipeline) (files : Files) (setting : Setting) (view : View) :
    Except PipelineError (List GeneratedSource) :=
  let className := setting.className
  if setting.output = .enum then
    let members := pipeline.generatedMembers setting view
    .ok [⟨sourceFile className,
      Synthesis.enumSource pipeline.templates files className members setting.enumFlags⟩]
  else if view.rowCount < Schema.firstDataRow then .error (.missingHeader className)
  else
    let schema := Schema.derive pipeline.registry view
    let record : GeneratedSource :=
      ⟨sourceFile className,
        Synthesis.recordClass pipeline.templates files className schema setting.isPureClass⟩
    if setting.output = .table then
      let keys := schema.keyFields setting.keys
      match Synthesis.tableClass pipeline.templates files setting setting.tableClass keys with
      | .ok text => .ok [record, ⟨sourceFile setting.tableClass, text⟩]
      | .error error => .error (.synthesis error)
    else .ok [record]

/-- The source files of settings, up to the first failure. -/
def generateSettings (pipeline : Pipeline) (files : Files) :
    List Setting → Except PipelineError (List GeneratedSource)
  | [] => .ok []
  | setting :: settings =>
      match sheetOf files setting with
      | .error error => .error error
      | .ok view =>
          match pipeline.generateSources files setting view with
          | .error error => .error error
          | .ok sources => (generateSettings pipeline files settings).map (sources ++ ·)

/-- The source files of every configured sheet, all enumerations being registered
first. -/
def generateAll (pipeline : Pipeline) (files : Files) :
    Except PipelineError (List GeneratedSource) × Pipeline :=
  match pipeline.loadEnumSheets files with
  | (.error error, pipeline) => (.error error, pipeline)
  | (.ok _, pipeline) => (pipeline.generateSettings files pipeline.config.ordered, pipeline)

end Pipeline

end TypedSheets
