import TypedSheets.Text.Blank
import TypedSheets.Text.Split
import TypedSheets.Types.Registry

/-!
# Settings

What a conversion makes of each sheet: an enumeration, a class of records, or a table
of them; where the sheet comes from; and how its records are joined into another
table.
-/

namespace TypedSheets

/-- What a setting produces. -/
inductive OutputKind where
  | enum
  | recordClass
  | table
deriving DecidableEq

/-- The shape asked for a table. -/
inductive TableKind where
  | dictionary
  | list
deriving DecidableEq

/-- How records are put into a list field of the rows of another table. -/
structure JoinSetting where
  targetTable : String
  targetKeyField : String
  localKeyField : String
  targetListField : String
  targetFinder : String
deriving DecidableEq

/-- Where a sheet comes from. -/
inductive SourceSpec where
  /-- A file of delimited text. -/
  | file (path : String)
  /-- A JSON file of rows of values. -/
  | values (path : String)
deriving DecidableEq

namespace SourceSpec

/-- The path of a source. -/
def path : SourceSpec → String
  | .file path => path
  | .values path => path

/-- A source with its path changed. -/
def mapPath (change : String → String) : SourceSpec → SourceSpec
  | .file path => .file (change path)
  | .values path => .values (change path)

end SourceSpec

/-- What to make of one sheet. -/
structure Setting where
  className : String
  output : OutputKind
  tableKind : TableKind
  /-- Names of key fields with commas between them. -/
  keyFields : String
  join : Option JoinSetting
  /-- Whether the records of a table are not stored on their own. -/
  tableOnly : Bool
  tableClassName : Option String
  tableAssetName : Option String
  tempPath : Option String
  source : Option SourceSpec
  /-- Whether an enumeration consists of flags. -/
  enumFlags : Bool
deriving DecidableEq

namespace Setting

/-- The setting of a class in which everything else is left at its default. -/
def ofClass (className : String) (output : OutputKind) : Setting :=
  { className
    output
    tableKind := .list
    keyFields := ""
    join := none
    tableOnly := false
    tableClassName := none
    tableAssetName := none
    tempPath := none
    source := none
    enumFlags := false }

/-- The texts that are not blank, trimmed, of which none equals one of `seen` or an
earlier one. -/
def distinctNames (seen : List String) : List String → List String
  | [] => []
  | name :: names =>
      let name := Text.trim name
      if name = "" ∨ name ∈ seen then distinctNames seen names
      else name :: distinctNames (name :: seen) names

/-- The names of the key fields, each once. -/
def keys (setting : Setting) : List String :=
  distinctNames [] (Text.split ',' setting.keyFields)

/-- A configured name without the space around it, if it is not blank. -/
def givenName? (name : Option String) : Option String :=
  (name.map Text.trim).filter (· ≠ "")

/-- The class name of the table. -/
def tableClass (setting : Setting) : String :=
  (givenName? setting.tableClassName).getD (setting.className ++ "Table")

/-- The name under which the table is stored. -/
def tableAsset (setting : Setting) : String :=
  (givenName? setting.tableAssetName).getD setting.tableClass

/-- Whether the records are joined into another table. -/
def isJoin (setting : Setting) : Bool := setting.join.isSome

/-- Whether the records are plain data that is not stored on its own. -/
def isPureClass (setting : Setting) : Bool :=
  (setting.output == .table && setting.tableOnly) || setting.isJoin

end Setting

/-- A whole configuration. -/
structure Config where
  settings : List Setting
  tempPath : String
  templateDirectory : Option String
  outputDirectory : String
  /-- Enumerations known before any sheet is read. -/
  enums : List EnumDef
  referenceTypes : List String
deriving DecidableEq

/-- Why a configuration cannot be read, or not be used as asked. -/
inductive ConfigError where
  | unreadable (reason : String)
  | malformed
  | unknownSetting (className : String)
  | missingSource (className : String)
deriving DecidableEq

/-- The text of an error. -/
def ConfigError.message : ConfigError → String
  | .unreadable reason => "Failed to read configuration: " ++ reason
  | .malformed => "Invalid configuration"
  | .unknownSetting className => "Setting not found: " ++ className
  | .missingSource className => "Setting '" ++ className ++ "' has no source"

namespace Config

/-- Where reports go that have no path of their own. -/
def defaultTempPath : String := ".sheetforge/tmp"

/-- Where generated sources go. -/
def defaultOutputDirectory : String := "generated"

/-- The configuration without any setting. -/
def default : Config :=
  { settings := []
    tempPath := defaultTempPath
    templateDirectory := none
    outputDirectory := defaultOutputDirectory
    enums := []
    referenceTypes := [] }

/-- The first setting of a class. -/
def setting (config : Config) (className : String) : Except ConfigError Setting :=
  match config.settings.find? fun setting => setting.className == className with
  | some setting => .ok setting
  | none => .error (.unknownSetting className)

/-- Where the report of a setting goes. -/
def tempPathOf (config : Config) (setting : Setting) : String :=
  setting.tempPath.getD config.tempPath

/-- The types known before any sheet is read. Records of plain data may be fields of
others. -/
def registry (config : Config) : Registry :=
  let withEnums := config.enums.foldl Registry.registerEnum Registry.empty
  let withReferences := config.referenceTypes.foldl Registry.registerReference withEnums
  ((config.settings.filter (·.isPureClass)).map Setting.className).foldl Registry.registerRecord
    withReferences

/-- The settings in the order in which they run: enumerations, then sheets that are
not joined, then joins. -/
def ordered (config : Config) : List Setting :=
  let isEnum := fun setting : Setting => setting.output == .enum
  let isJoined := fun setting : Setting => setting.isJoin
  (config.settings.filter isEnum)
    ++ (config.settings.filter fun setting => !isEnum setting && !isJoined setting)
    ++ (config.settings.filter fun setting => !isEnum setting && isJoined setting)

/-- A configuration that shows every kind of setting. -/
def sample : Config :=
  let items : Setting :=
    { Setting.ofClass "Item" .table with
      keyFields := "id"
      tableKind := .dictionary
      source := some (.file "sheets/items.csv") }
  let drops : Setting :=
    { Setting.ofClass "ItemDrop" .table with
      keyFields := "item_id, chance"
      join := some
        { targetTable := "Item"
          targetKeyField := "id"
          localKeyField := "item_id"
          targetListField := "drops"
          targetFinder := "Find" }
      source := some (.values "sheets/drops.json") }
  let rarity : Setting :=
    { Setting.ofClass "Rarity" .enum with source := some (.file "sheets/rarity.csv") }
  { default with
    settings := [items, drops, rarity]
    enums := [EnumDef.normalized
      { name := "ItemTags"
        flags := true
        members := [⟨"Rare", none⟩, ⟨"Cursed", none⟩, ⟨"Quest", none⟩] }]
    referenceTypes := ["Sprite"] }

end Config

end TypedSheets
