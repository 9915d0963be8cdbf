import TypedSheets.Conversion.Convert
import TypedSheets.Diagnostics
import TypedSheets.RunLog
import TypedSheets.Schema
import TypedSheets.Settings.Basic

/-!
# Records of a sheet

Every row of data becomes a record, unless all its key cells are blank. A valid column
writes the value of its cell into the field of its name; a blank or unreadable cell
leaves the field as it is and is reported. Nothing stops the conversion of a sheet.
-/

namespace TypedSheets.Materialization

/-- A column and the type of its cells, bound to a field of a record class. -/
structure Binding where
  field : FieldSchema
  cellType : ValueType

/-- The binding of a valid column: its field has to be of the type that the column
declares, and is not one that joins fill. -/
def bind? (registry : Registry) (recordType : RecordType) (field : FieldSchema) : Option Binding := do
  let cellType ← registry.resolve? field.declaredType
  let expected := ValueType.ofColumn field.isArrayElement cellType
  let descriptor ← recordType.field? field.baseName
  if descriptor.type = expected ∧ !expected.isJoinFilled then some ⟨field, cellType⟩ else none

/-- The problem of a valid column that the record class has no field of its type
for. -/
def mismatch? (registry : Registry) (recordType : RecordType) (field : FieldSchema) : Option Issue := do
  let cellType ← registry.resolve? field.declaredType
  let expected := ValueType.ofColumn field.isArrayElement cellType
  match recordType.field? field.baseName with
  | none =>
      some <| Issue.ofRun Flags.versionMismatch <|
        "field '" ++ field.name ++ "' does not exist on " ++ recordType.name
  | some descriptor =>
      if descriptor.type = expected then none
      else
        some <| Issue.ofRun Flags.versionMismatch <|
          "field '" ++ field.name ++ "' is " ++ expected.typeName ++ " in the sheet but "
            ++ descriptor.type.typeName ++ " in " ++ recordType.name

/-- What a cell gives. -/
inductive CellOutcome where
  | empty
  | failed
  | value (value : Value)

/-- What the text of a cell gives for a bound column. -/
def readCell (registry : Registry) (binding : Binding) (raw : String) : CellOutcome :=
  if Text.blank raw then .empty
  else
    match registry.convertCell? binding.cellType raw with
    | some value => .value value
    | none => .failed

/-- The text of a cell in a column; empty where the sheet does not have the column. -/
def cellOf (data : View) (row : Nat) (column : Option Nat) : String :=
  match column with
  | some column => data.cell row column
  | none => ""

/-- The problem of a cell of a row of the grid. -/
def cellIssue? (row : Nat) (binding : Binding) (raw : String) : CellOutcome → Option Issue
  | .empty => some ⟨some row, some binding.field.name, Flags.emptyCell, "empty cell"⟩
  | .failed =>
      some ⟨some row, some binding.field.name, Flags.convertFailed,
        "cannot convert '" ++ raw ++ "' to " ++ binding.cellType.typeName⟩
  | .value _ => none

/-- A record after the cell of a column: array columns add an item, others put the
value in. -/
def assign (record : Record) (binding : Binding) : CellOutcome → Record
  | .value value =>
      if binding.field.isArrayElement then record.append binding.field.baseName value
      else record.set binding.field.baseName value
  | _ => record

/-- Keep letters, digits, underscores and hyphens; other characters become hyphens, of
which none stands at an end or next to another. -/
def slug (name : String) : String :=
  let replaced := name.toList.map fun character =>
    if Text.isAlphanumeric character || character == '_' then character else '-'
  String.ofList (['-'].intercalate ((Text.splitChars '-' replaced).filter (· ≠ [])))

/-- The name under which a record is stored: its class and the texts of its keys, or
its row where there are no keys. -/
def assetName (className : String) (record : Record) (keys : List String) (row : Nat) : String :=
  let parts :=
    if keys = [] then [Nat.repr row]
    else keys.map fun key => ((record.get? key).map Value.keyText).getD ""
  slug ("_".intercalate (className :: parts))

/-- What a row of data becomes. -/
inductive RowOutcome where
  | skipped (issue : Issue)
  | kept (record : Record) (issues : List Issue)

namespace RowOutcome

/-- The record of a row, if it was not left out. -/
def record? : RowOutcome → Option Record
  | .skipped _ => none
  | .kept record _ => some record

/-- The problems of a row. -/
def issues : RowOutcome → List Issue
  | .skipped issue => [issue]
  | .kept _ issues => issues

end RowOutcome

/-- What all rows of a sheet have in common. -/
structure Plan where
  registry : Registry
  recordType : RecordType
  className : String
  keys : List String
  /-- The columns of the keys that the sheet has. -/
  keyColumns : List (Option Nat)
  bindings : List Binding
  /-- The view of the rows of data. -/
  data : View

namespace Plan

/-- Whether there are key columns and all their cells in a row are blank. -/
def lacksKey (plan : Plan) (row : Nat) : Bool :=
  !plan.keyColumns.isEmpty && plan.keyColumns.all fun column => Text.blank (cellOf plan.data row column)

/-- The text of a cell in a row of data. -/
def raw (plan : Plan) (row : Nat) (binding : Binding) : String :=
  cellOf plan.data row binding.field.column

/-- What the cell of a bound column gives in a row of data. -/
def outcome (plan : Plan) (row : Nat) (binding : Binding) : CellOutcome :=
  readCell plan.registry binding (plan.raw row binding)

/-- The record of a row of data, before it is named. -/
def fill (plan : Plan) (row : Nat) : Record :=
  plan.bindings.foldl (fun record binding => assign record binding (plan.outcome row binding))
    { plan.recordType.instantiate with row := some (Schema.firstDataRow + row) }

/-- The record of a row of data. Plain data is not named. -/
def record (plan : Plan) (row : Nat) : Record :=
  let record := plan.fill row
  if plan.recordType.isPure then record
  else
    { record with
      assetName := some (assetName plan.className record plan.keys (Schema.firstDataRow + row)) }

/-- What a row of data becomes. -/
def row (plan : Plan) (row : Nat) : RowOutcome :=
  let gridRow := Schema.firstDataRow + row
  if plan.lacksKey row then
    .skipped ⟨some gridRow, none, Flags.noKeySkip, "all key cells are empty"⟩
  else
    .kept (plan.record row) <|
      plan.bindings.filterMap fun binding =>
        cellIssue? gridRow binding (plan.raw row binding) (plan.outcome row binding)

end Plan

/-- Warnings for records whose name an earlier one has, `seen` being the names so
far. -/
def duplicateWarnings (seen : List String) : List Record → List LogEntry
  | [] => []
  | record :: records =>
      match record.assetName with
      | none => duplicateWarnings seen records
      | some name =>
          if seen.contains name then
            LogEntry.warning
                ("Duplicate asset name '" ++ name ++ "' at row " ++ Nat.repr (record.row.getD 0))
              :: duplicateWarnings seen records
          else duplicateWarnings (name :: seen) records

/-- The records of a sheet and what was noticed on the way. -/
structure Result where
  records : List Record
  report : Report
  rowsRead : Nat
  rowsSkipped : Nat
  log : List LogEntry

/-- The plan for a sheet of a schema. -/
def plan (registry : Registry) (view : View) (schema : Schema) (recordType : RecordType)
    (setting : Setting) : Plan :=
  { registry
    recordType
    className := setting.className
    keys := setting.keys
    keyColumns := (setting.keys.filterMap schema.find?).map FieldSchema.column
    bindings := schema.valid.filterMap (bind? registry recordType)
    data := view.sliceRows Schema.firstDataRow none }

/-- The records of a sheet. -/
def run (registry : Registry) (view : View) (schema : Schema) (recordType : RecordType)
    (setting : Setting) : Result :=
  let plan := plan registry view schema recordType setting
  let rows := (List.range plan.data.rowCount).map plan.row
  let records := rows.filterMap RowOutcome.record?
  let mismatches := schema.valid.filterMap (mismatch? registry recordType)
  let unknownKeys := setting.keys.filter fun key => (schema.find? key).isNone
  let skipped := rows.length - records.length
  { records
    report := Report.ofIssues (mismatches ++ rows.flatMap RowOutcome.issues)
    rowsRead := rows.length
    rowsSkipped := skipped
    log :=
      (unknownKeys.map fun key => LogEntry.warning ("Key field '" ++ key ++ "' not found in sheet"))
        ++ duplicateWarnings [] records
        ++ [LogEntry.info
            (setting.className ++ ": " ++ Nat.repr rows.length ++ " rows read, "
              ++ Nat.repr records.length ++ " records, " ++ Nat.repr skipped ++ " skipped")] }

end TypedSheets.Materialization
