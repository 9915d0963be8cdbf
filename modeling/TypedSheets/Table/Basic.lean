import TypedSheets.Synthesis.Strategy
import TypedSheets.Table.Index
import TypedSheets.Text.Quoted

/-!
# Tables

The records of a sheet under one name, with named finders: searches that answer with
the position of a record. A dictionary is searched by its first key, a searchable list
by all of them.
-/

namespace TypedSheets

/-- A search among records by argument values. -/
abbrev Finder := List Record → List Value → Option Nat

namespace Finder

/-- Whether the key fields of a record equal the arguments one by one. -/
def keysMatch (keys : List String) (arguments : List Value) (record : Record) : Bool :=
  (keys.zip arguments).all fun (key, argument) =>
    match record.get? key with
    | some value => value.keyEq argument
    | none => false

/-- The first record whose key fields equal the arguments. -/
def byKeys (keys : List String) : Finder := fun records arguments =>
  if arguments.length = keys.length then records.findIdx? (keysMatch keys arguments) else none

end Finder

/-- Records with their finders. -/
structure Table where
  name : String
  className : String
  strategy : TableStrategy
  recordType : RecordType
  keyFields : List String
  records : List Record
  finders : Index Finder

namespace Table

/-- The finders that a table of a shape has. -/
def builtInFinders (strategy : TableStrategy) (keys : List String) : Index Finder :=
  match strategy with
  | .dictionary =>
      (Index.empty.insert "Get" (Finder.byKeys (keys.take 1))).insert "Find"
        (Finder.byKeys (keys.take 1))
  | .searchableList => Index.empty.insert "Find" (Finder.byKeys keys)
  | .plainList => Index.empty

/-- The table of records in a shape. -/
def ofRecords (name : String) (recordType : RecordType) (strategy : TableStrategy)
    (keyFields : List String) (records : List Record) : Table :=
  { name
    className := recordType.name
    strategy
    recordType
    keyFields
    records
    finders := builtInFinders strategy keyFields }

/-- A finder of a table. -/
def finder? (table : Table) (name : String) : Option Finder := table.finders.get? name

/-- Add a finder, in place of the one of its name. -/
def registerFinder (table : Table) (name : String) (finder : Finder) : Table :=
  { table with finders := table.finders.insert name finder }

/-- The names of the finders. -/
def finderNames (table : Table) : List String := table.finders.names

/-- The name of a shape in descriptions. -/
def strategyLabel : TableStrategy → String
  | .dictionary => "Dictionary"
  | .searchableList => "SearchableList"
  | .plainList => "PlainList"

/-- One line that describes a table. -/
def describe (table : Table) : String :=
  let fields := [
    "name: " ++ Text.describe table.name,
    "class_name: " ++ Text.describe table.className,
    "strategy: " ++ strategyLabel table.strategy,
    "key_fields: " ++ Text.describeList table.keyFields,
    "records: " ++ Nat.repr table.records.length,
    "finders: " ++ Text.describeList table.finderNames]
  "MaterializedTable \x7b " ++ ", ".intercalate fields ++ " \x7d"

end Table

end TypedSheets
