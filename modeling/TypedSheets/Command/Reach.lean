import TypedSheets.Command.Run

/-!
# What commands reach

The paths that a command line has to do with: those it names, those that its
configuration names, and the variables that files of assignments refer to. Nothing
else outside has an effect on a run or is changed by it.
-/

namespace TypedSheets.Command

/-- The configuration that a command reads. -/
def config? : Command → Option String
  | .convert config _ _ _ _ | .generate config _ | .checkConfig config => some config
  | .showSheet _ config _ => config
  | .writeSample _ | .listAssets _ | .showAsset _ _ | .deleteAsset _ _ => none

/-- The store that a command works on. -/
def store? : Command → Option String
  | .convert _ _ store dryRun _ =>
      if dryRun then none else some (store.getD Store.defaultDirectory)
  | .listAssets store | .showAsset store _ | .deleteAsset store _ =>
      some (store.getD Store.defaultDirectory)
  | _ => none

/-- The paths that a command names besides its store. -/
def paths (command : Command) : List String :=
  command.config?.toList ++ match command with
    | .generate _ output => output.toList
    | .showSheet input _ output => input :: output.toList
    | .writeSample output => output.toList
    | _ => []

/-- The sources and templates that a configuration reads. -/
def pathsRead (config : Config) (templates : Synthesis.TemplateLocator) : List String :=
  config.settings.filterMap (fun setting => setting.source.map SourceSpec.path)
    ++ Synthesis.Shipped.all.flatMap fun template => templates.candidates template.1

/-- The directories that a configuration writes into, and the files in them. -/
def pathsWritten (config : Config) (output : Option String) : List String :=
  let directory := output.getD config.outputDirectory
  config.settings.flatMap fun setting => [
    Path.join (config.tempPathOf setting) (setting.className ++ ".report.json"),
    Path.join directory (Pipeline.sourceFile setting.className),
    Path.join directory (Pipeline.sourceFile setting.tableClass)]

/-- The directory for generated sources that a command names. -/
def generatedInto? : Command → Option String
  | .generate _ output => output
  | _ => none

/-- The paths that a command reaches through its configuration, as far as the
configuration can be read. -/
def pathsOfConfig (context : Context) (command : Command) (files : Files) : List String :=
  match command.config?.map (Config.load files) with
  | some (.ok config) =>
      pathsRead config (templatesOf context config) ++ pathsWritten config command.generatedInto?
  | _ => []

end TypedSheets.Command

namespace TypedSheets.Environment

/-- The words of a text that can be names of variables. -/
def words (text : List Char) : List String :=
  let separated := text.map fun character =>
    if Text.isAlphanumeric character || character == '_' || character == '.' then character else ' '
  ((Text.splitChars ' ' separated).filter (· ≠ [])).map String.ofList

end TypedSheets.Environment
