import TypedSheets.Command.Arguments
import TypedSheets.Settings.Basic

/-!
# Commands

What a command line asks for.
-/

namespace TypedSheets

/-- What is to be done. -/
inductive Command where
  /-- Convert the sheets of a configuration and store what they make. -/
  | convert (config : String) (className store : Option String) (dryRun report : Bool)
  /-- Write the sources of a configuration. -/
  | generate (config : String) (output : Option String)
  /-- Show a sheet and its fields. -/
  | showSheet (input : String) (config output : Option String)
  /-- Write the sample configuration. -/
  | writeSample (output : Option String)
  /-- Read a configuration and list its settings. -/
  | checkConfig (config : String)
  | listAssets (store : Option String)
  | showAsset (store : Option String) (name : String)
  | deleteAsset (store : Option String) (name : String)
deriving DecidableEq

namespace Command

/-- The configuration that is read unless another one is given. -/
def defaultConfig : String := "sheetforge.json"

def configOption : OptionSpec := ⟨"config", some 'c', true⟩
def storeOption : OptionSpec := ⟨"store", some 's', true⟩
def outOption : OptionSpec := ⟨"out", some 'o', true⟩
def outputOption : OptionSpec := ⟨"output", some 'o', true⟩
def classOption : OptionSpec := ⟨"class", none, true⟩
def dryRunOption : OptionSpec := ⟨"dry-run", none, false⟩
def reportOption : OptionSpec := ⟨"report", none, false⟩

/-- The value of an option that is a path and so cannot be empty. -/
def path? (arguments : Arguments) (spec : OptionSpec) : Except UsageError (Option String) :=
  match arguments.value? spec.name with
  | some "" => .error (.missingValue spec.name)
  | other => .ok other

/-- The path of the configuration. -/
def configPath (arguments : Arguments) : Except UsageError String :=
  (path? arguments configOption).map (·.getD defaultConfig)

/-- No operand is left. -/
def noOperand (arguments : Arguments) : Except UsageError Unit :=
  match arguments.operands with
  | [] => .ok ()
  | operand :: _ => .error (.unknownArgument operand)

/-- The only operand. -/
def onlyOperand (arguments : Arguments) : Except UsageError String :=
  match arguments.operands with
  | [operand] => .ok operand
  | [] => .error .missingArgument
  | _ :: operand :: _ => .error (.unknownArgument operand)

/-- Options only. -/
def readOptions (specs : List OptionSpec) (rest : List String) : Except UsageError Arguments := do
  let arguments ← Arguments.read false specs rest
  noOperand arguments
  .ok arguments

/-- The command for the settings of a configuration. -/
def parseSettings : List String → Except UsageError Command
  | "example" :: rest => do
      let arguments ← readOptions [outputOption] rest
      .ok (.writeSample (← path? arguments outputOption))
  | "check" :: rest => do
      let arguments ← readOptions [configOption] rest
      .ok (.checkConfig (← configPath arguments))
  | "help" :: _ | "-h" :: _ | "--help" :: _ => .error .helpRequested
  | other :: _ => .error (.unknownArgument other)
  | [] => .error .missingArgument

/-- The command for the assets of a store. -/
def parseAssets (rest : List String) : Except UsageError Command := do
  let arguments ← Arguments.read true [storeOption] rest
  let store ← path? arguments storeOption
  match arguments.operands with
  | "list" :: rest => do
      let _ ← readOptions [] rest
      .ok (.listAssets store)
  | "show" :: rest => do
      .ok (.showAsset store (← onlyOperand (← Arguments.read false [] rest)))
  | "delete" :: rest => do
      .ok (.deleteAsset store (← onlyOperand (← Arguments.read false [] rest)))
  | "help" :: _ => .error .helpRequested
  | other :: _ => .error (.unknownArgument other)
  | [] => .error .missingArgument

/-- The command of a command line. -/
def parse : List String → Except UsageError Command
  | "convert" :: rest => do
      let arguments ← readOptions [configOption, classOption, storeOption, dryRunOption, reportOption] rest
      .ok (.convert (← configPath arguments) (arguments.value? classOption.name)
        (← path? arguments storeOption) (arguments.has dryRunOption.name)
        (arguments.has reportOption.name))
  | "codegen" :: rest => do
      let arguments ← readOptions [configOption, outOption] rest
      .ok (.generate (← configPath arguments) (← path? arguments outOption))
  | "show" :: rest => do
      let arguments ← Arguments.read false [configOption, outputOption] rest
      let input ← onlyOperand arguments
      if input = "" then .error .missingArgument
      else .ok (.showSheet input (← path? arguments configOption) (← path? arguments outputOption))
  | "settings" :: rest => parseSettings rest
  | "assets" :: rest => parseAssets rest
  | "help" :: _ | "-h" :: _ | "--help" :: _ => .error .helpRequested
  | other :: _ => .error (.unknownArgument other)
  | [] => .error .missingArgument

end Command

end TypedSheets
