import Mathlib.Data.List.Forall2
import TypedSheets.Proofs.Diagnostics.Flags
import TypedSheets.Proofs.Materialization.Typing
import TypedSheets.Proofs.Schema.Agreement

/-!
# Every row and every cell is accounted for

With the columns and the record class of the sheet itself, every row of data is left out
for want of a key or becomes one record, and every cell of a column that no join fills is
reported or assigned. What a row becomes depends on the cells of this row alone.
-/

namespace TypedSheets.Materialization

/-- The rows of data of a sheet. -/
def dataRows (view : View) : List Nat :=
  (List.range (view.rowCount - Schema.firstDataRow)).map fun index => Schema.firstDataRow + index

/-- The text of a cell in a row, in the place that a column has in the sheet. -/
def cellText (view : View) (row : Nat) (column : FieldSchema) : String :=
  match column.column with
  | some place => view.cell row place
  | none => ""

/-- Whether the sheet has the column of some key, and a row is blank in the columns of all
keys that it has. -/
def Keyless (view : View) (schema : Schema) (keys : List String) (row : Nat) : Prop :=
  (∃ key ∈ keys, (schema.find? key).isSome = true)
    ∧ ∀ key ∈ keys, ∀ column ∈ schema.find? key, Text.blank (cellText view row column) = true

instance (view : View) (schema : Schema) (keys : List String) (row : Nat) :
    Decidable (Keyless view schema keys row) :=
  inferInstanceAs (Decidable (_ ∧ _))

/-- The rows of data that become records. -/
def keptRows (view : View) (schema : Schema) (keys : List String) : List Nat :=
  (dataRows view).filter fun row => !decide (Keyless view schema keys row)

/-- The valid columns that no join fills. -/
def filled (registry : Registry) (schema : Schema) : Schema :=
  schema.valid.filter fun column => !(column.fieldType? registry).any ValueType.isJoinFilled

/-- The value of the cell of a column in a row, if its text has one. -/
def conversion? (registry : Registry) (view : View) (row : Nat) (column : FieldSchema) :
    Option Value :=
  (registry.resolve? column.declaredType).bind fun type =>
    registry.convertCell? type (cellText view row column)

/-- What a cell assigns to the field of its column. -/
def assigned? (registry : Registry) (view : View) (row : Nat) (column : FieldSchema) :
    Option Value :=
  if Text.blank (cellText view row column) then none else conversion? registry view row column

/-- The values that a row assigns to a field, in the order of the columns. -/
def assignments (registry : Registry) (view : View) (schema : Schema) (row : Nat) (name : String) :
    List Value :=
  ((filled registry schema).filter fun column => column.baseName == name).filterMap
    (assigned? registry view row)

/-- The problem of a blank cell. -/
def emptyIssue (row : Nat) (column : FieldSchema) : Issue :=
  ⟨some row, some column.name, Flags.emptyCell, "empty cell"⟩

/-- The problem of a cell whose text has no value. -/
def failedIssue (registry : Registry) (view : View) (row : Nat) (column : FieldSchema) : Issue :=
  ⟨some row, some column.name, Flags.convertFailed,
    "cannot convert '" ++ cellText view row column ++ "' to "
      ++ ((registry.resolve? column.declaredType).map ValueType.typeName).getD ""⟩

/-- The problem of a cell, if it has one. -/
def problem? (registry : Registry) (view : View) (row : Nat) (column : FieldSchema) :
    Option Issue :=
  if Text.blank (cellText view row column) then some (emptyIssue row column)
  else if (conversion? registry view row column).isNone then
    some (failedIssue registry view row column)
  else none

/-- The problem of a row without a key. -/
def keylessIssue (row : Nat) : Issue :=
  ⟨some row, none, Flags.noKeySkip, "all key cells are empty"⟩

/-- The problems of a row, in the order of the columns. -/
def rowIssues (registry : Registry) (view : View) (schema : Schema) (keys : List String)
    (row : Nat) : List Issue :=
  if Keyless view schema keys row then [keylessIssue row]
  else (filled registry schema).filterMap (problem? registry view row)

/-- The record that a row becomes. -/
structure RowConverted (registry : Registry) (view : View) (schema : Schema)
    (recordType : RecordType) (row : Nat) (record : Record) : Prop where
  numbered : record.row = some row
  hasFields : record.HasFieldsOf recordType
  /-- The last column that assigns to a field decides. -/
  single : ∀ column ∈ schema.valid, column.isArrayElement = false →
    ∀ value, (assignments registry view schema row column.baseName).getLast? = some value →
      record.get? column.baseName = some value
  /-- Columns that make up an array all count. -/
  array : ∀ column ∈ schema.valid, column.isArrayElement = true →
    assignments registry view schema row column.baseName ≠ [] →
      record.get? column.baseName
        = some (.array (assignments registry view schema row column.baseName))
  untouched : ∀ name descriptor, recordType.field? name = some descriptor →
    assignments registry view schema row name = [] →
      record.get? name = some descriptor.type.zero

/-- What becomes of one cell. -/
inductive CellAccounted (registry : Registry) (view : View) (row : Nat) (column : FieldSchema) :
    Option Issue → Option Value → Prop where
  | empty (blank : Text.blank (cellText view row column) = true) :
      CellAccounted registry view row column (some (emptyIssue row column)) none
  | failed (filled : Text.blank (cellText view row column) = false)
      (unreadable : conversion? registry view row column = none) :
      CellAccounted registry view row column (some (failedIssue registry view row column)) none
  | assigned (filled : Text.blank (cellText view row column) = false) (value : Value)
      (read : conversion? registry view row column = some value) :
      CellAccounted registry view row column none (some value)

/-- Every row and every cell of a sheet is accounted for. -/
structure Complete (registry : Registry) (view : View) (schema : Schema) (recordType : RecordType)
    (keys : List String) (result : Result) : Prop where
  rowsRead : result.rowsRead = view.rowCount - Schema.firstDataRow
  total : result.rowsRead = result.records.length + result.rowsSkipped
  skipped : result.rowsSkipped
    = ((dataRows view).filter fun row => decide (Keyless view schema keys row)).length
  records : List.Forall₂ (RowConverted registry view schema recordType)
    (keptRows view schema keys) result.records
  columns : schema.Placed
  cells : ∀ row ∈ keptRows view schema keys, ∀ column ∈ filled registry schema,
    CellAccounted registry view row column (problem? registry view row column)
      (assigned? registry view row column)
  issues : result.report.issues = (dataRows view).flatMap (rowIssues registry view schema keys)

theorem cellAccounted (registry : Registry) (view : View) (row : Nat) (column : FieldSchema) :
    CellAccounted registry view row column (problem? registry view row column)
      (assigned? registry view row column) := by
  simp only [problem?, assigned?]
  cases blank : Text.blank (cellText view row column) with
  | true => exact .empty blank
  | false =>
      cases read : conversion? registry view row column with
      | none => exact .failed blank read
      | some value => exact .assigned blank value read

/-! ## Columns of the sheet's own class -/

section OwnClass

variable {registry : Registry} {view : View} {schema : Schema} {setting : Setting}
  {className : String} {isPure : Bool}

/-- A valid column is bound unless joins fill it. -/
theorem bind?_ofSchema (coherent : schema.Coherent registry) (className : String) (isPure : Bool)
    {column : FieldSchema} (member : column ∈ schema.valid) {type : ValueType}
    (resolved : registry.resolve? column.declaredType = some type) :
    bind? registry (RecordType.ofSchema registry className schema isPure) column
      = if type.isJoinFilled then none else some ⟨column, type⟩ := by
  rcases RecordType.field?_ofSchema coherent className isPure member with ⟨descriptor, found, typed⟩
  have same : descriptor.type = ValueType.ofColumn column.isArrayElement type := by
    simpa [FieldSchema.fieldType?, resolved] using typed.symm
  cases joined : type.isJoinFilled <;> simp [bind?, resolved, found, same, joined]

/-- No column of a sheet disagrees with the record class of the sheet. -/
theorem mismatch?_ofSchema (coherent : schema.Coherent registry) (className : String)
    (isPure : Bool) {column : FieldSchema} (member : column ∈ schema.valid) :
    mismatch? registry (RecordType.ofSchema registry className schema isPure) column = none := by
  rcases coherent.resolved column member with ⟨type, resolved⟩
  rcases RecordType.field?_ofSchema coherent className isPure member with ⟨descriptor, found, typed⟩
  have same : descriptor.type = ValueType.ofColumn column.isArrayElement type := by
    simpa [FieldSchema.fieldType?, resolved] using typed.symm
  simp [mismatch?, resolved, found, same]

/-- The columns that are bound are those that no join fills. -/
theorem bindings_ofSchema (coherent : schema.Coherent registry) (className : String)
    (isPure : Bool) :
    schema.valid.filterMap (bind? registry (RecordType.ofSchema registry className schema isPure))
      = (filled registry schema).filterMap fun column =>
          (registry.resolve? column.declaredType).map fun type => ⟨column, type⟩ := by
  simp only [filled]
  rw [List.filterMap_filter]
  apply List.filterMap_congr
  intro column member
  rcases coherent.resolved column member with ⟨type, resolved⟩
  rw [bind?_ofSchema coherent className isPure member resolved]
  cases joined : type.isJoinFilled <;> simp [FieldSchema.fieldType?, resolved, joined]

/-- A cell in the rows of data is that of the row of the sheet. -/
theorem cellOf_data (view : View) (index : Nat) (column : FieldSchema) :
    cellOf (view.sliceRows Schema.firstDataRow none) index column.column
      = cellText view (Schema.firstDataRow + index) column := by
  unfold cellText
  cases column.column with
  | none => rfl
  | some place => exact View.cell_sliceRows_none view Schema.firstDataRow index place

/-- What a bound column gives in a row is what its cell assigns, and its problem is that of
the cell. -/
theorem readCell_eq {column : FieldSchema} {type : ValueType}
    (resolved : registry.resolve? column.declaredType = some type) (row : Nat) :
    (readCell registry ⟨column, type⟩ (cellText view row column)).value?
        = assigned? registry view row column
      ∧ cellIssue? row ⟨column, type⟩ (cellText view row column)
          (readCell registry ⟨column, type⟩ (cellText view row column))
        = problem? registry view row column := by
  have converts : conversion? registry view row column
      = registry.convertCell? type (cellText view row column) := by
    simp [conversion?, resolved]
  simp only [readCell, assigned?, problem?]
  rw [converts]
  cases blank : Text.blank (cellText view row column) with
  | true => exact ⟨rfl, rfl⟩
  | false =>
      cases read : registry.convertCell? type (cellText view row column) with
      | none => simp [CellOutcome.value?, cellIssue?, failedIssue, resolved]
      | some value => simp [CellOutcome.value?, cellIssue?]

/-! ## One row -/

/-- A row is left out exactly when it lacks its keys. -/
theorem lacksKey_plan (registry : Registry) (view : View) (schema : Schema)
    (recordType : RecordType) (setting : Setting) (index : Nat) :
    (plan registry view schema recordType setting).lacksKey index
      = decide (Keyless view schema setting.keys (Schema.firstDataRow + index)) := by
  rw [Bool.eq_iff_iff, decide_eq_true_iff]
  simp only [Plan.lacksKey, plan, List.isEmpty_map, List.all_map, Function.comp_def, cellOf_data,
    Bool.and_eq_true, Keyless]
  apply and_congr
  · simp [List.filterMap_eq_nil_iff, Option.isSome_iff_ne_none]
  · simp only [List.all_eq_true, List.mem_filterMap]
    constructor
    · intro blank key member column found
      exact blank column ⟨key, member, found⟩
    · rintro blank column ⟨key, member, found⟩
      exact blank key member column found

/-- The plan of a sheet with its own record class. -/
abbrev ownPlan (registry : Registry) (view : View) (schema : Schema) (setting : Setting)
    (className : String) (isPure : Bool) : Plan :=
  plan registry view schema (RecordType.ofSchema registry className schema isPure) setting

theorem issues_ownPlan (coherent : schema.Coherent registry) (index : Nat) :
    ((ownPlan registry view schema setting className isPure).row index).issues
      = rowIssues registry view schema setting.keys (Schema.firstDataRow + index) := by
  simp only [Plan.row, rowIssues]
  rw [lacksKey_plan]
  by_cases keyless : Keyless view schema setting.keys (Schema.firstDataRow + index)
  · simp [keyless, RowOutcome.issues, keylessIssue]
  · simp only [keyless, decide_false, Bool.false_eq_true, ↓reduceIte, RowOutcome.issues]
    simp only [ownPlan, plan, Plan.outcome, Plan.raw, cellOf_data]
    rw [bindings_ofSchema coherent className isPure, List.filterMap_filterMap]
    apply List.filterMap_congr
    intro column member
    rcases coherent.resolved column (List.mem_of_mem_filter member) with ⟨type, resolved⟩
    rw [resolved, Option.map_some, Option.bind_some]
    exact (readCell_eq resolved _).2

theorem valuesFor_ownPlan (coherent : schema.Coherent registry) (index : Nat) (name : String) :
    valuesFor name ((ownPlan registry view schema setting className isPure).outcome index)
        (ownPlan registry view schema setting className isPure).bindings
      = assignments registry view schema (Schema.firstDataRow + index) name := by
  simp only [valuesFor, assignments]
  simp only [ownPlan, plan, Plan.outcome, Plan.raw, cellOf_data]
  rw [bindings_ofSchema coherent className isPure, List.filterMap_filter, List.filterMap_filter,
    List.filterMap_filterMap]
  apply List.filterMap_congr
  intro column member
  rcases coherent.resolved column (List.mem_of_mem_filter member) with ⟨type, resolved⟩
  rw [resolved, Option.map_some, Option.bind_some]
  by_cases here : column.baseName = name
  · simp only [here, beq_self_eq_true, ↓reduceIte]
    exact (readCell_eq resolved _).1
  · simp [here]

/-- What a row leaves in the field of a valid column. -/
theorem get?_record_ownPlan (coherent : schema.Coherent registry) (index : Nat)
    {column : FieldSchema} (member : column ∈ schema.valid) {descriptor : FieldDescriptor}
    (found : (RecordType.ofSchema registry className schema isPure).field? column.baseName
      = some descriptor) :
    ((ownPlan registry view schema setting className isPure).record index).get? column.baseName
      = some (
          let values := assignments registry view schema (Schema.firstDataRow + index) column.baseName
          if column.isArrayElement then descriptor.type.zero.extendedBy values
          else values.getLast?.getD descriptor.type.zero) := by
  have kind : ∀ binding ∈ (ownPlan registry view schema setting className isPure).bindings,
      binding.field.baseName = column.baseName →
        binding.field.isArrayElement = column.isArrayElement := by
    intro binding bound named
    rcases List.mem_filterMap.mp bound with ⟨other, among, made⟩
    obtain rfl := (bind?_eq_some_iff.mp made).1
    exact (coherent.agree _ among column member named).kind
  rw [get?_record, get?_fill kind, valuesFor_ownPlan coherent]
  exact congrArg (Option.map _) found

theorem rowConverted_ownPlan (coherent : schema.Coherent registry) (index : Nat) :
    RowConverted registry view schema (RecordType.ofSchema registry className schema isPure)
      (Schema.firstDataRow + index)
      ((ownPlan registry view schema setting className isPure).record index) := by
  have typed : ((ownPlan registry view schema setting className isPure).record index).WellTyped
      (RecordType.ofSchema registry className schema isPure) :=
    wellTyped_record (fun _ bound => fits_of_mem_plan bound) index
  refine ⟨?_, typed.hasFields, ?_, ?_, ?_⟩
  · exact row_record _ index
  · intro column member kind value last
    rcases RecordType.field?_ofSchema coherent className isPure member with ⟨descriptor, found, _⟩
    rw [get?_record_ownPlan coherent index member found]
    simp [kind, last]
  · intro column member kind some
    obtain ⟨descriptor, found, declared⟩ :=
      RecordType.field?_ofSchema coherent className isPure member
    rw [get?_record_ownPlan coherent index member found]
    rcases coherent.resolved column member with ⟨type, resolved⟩
    have zero : descriptor.type.zero = .null := by
      rw [FieldSchema.fieldType?, resolved, kind] at declared
      rw [← Option.some.inj declared]
      rfl
    rcases List.exists_cons_of_ne_nil some with ⟨value, values, present⟩
    simp [kind, zero, present]
  · intro name descriptor found none
    rcases RecordType.exists_column_of_field? found with ⟨column, member, rfl, _⟩
    rw [get?_record_ownPlan coherent index member found, none]
    simp [Value.extendedBy]

end OwnClass

/-! ## All rows -/

/-- The records of a sheet are those of the rows that are not left out. -/
theorem records_run (registry : Registry) (view : View) (schema : Schema) (recordType : RecordType)
    (setting : Setting) :
    (run registry view schema recordType setting).records
      = ((List.range (view.rowCount - Schema.firstDataRow)).filter fun index =>
          !decide (Keyless view schema setting.keys (Schema.firstDataRow + index))).map
            (plan registry view schema recordType setting).record := by
  have sized : (plan registry view schema recordType setting).data.rowCount
      = view.rowCount - Schema.firstDataRow :=
    View.rowCount_sliceRows_none view Schema.firstDataRow
  simp only [run, sized]
  -- Nothing carries over from row to row, so any list of rows will do.
  generalize List.range (view.rowCount - Schema.firstDataRow) = indexes
  rw [List.filterMap_map]
  induction indexes with
  | nil => rfl
  | cons index indexes ih =>
      rw [List.filterMap_cons, List.filter_cons, ih]
      simp only [Function.comp_apply, Plan.row, lacksKey_plan]
      by_cases keyless : Keyless view schema setting.keys (Schema.firstDataRow + index)
      · simp [keyless, RowOutcome.record?]
      · simp [keyless, RowOutcome.record?]

/-- Every record of a sheet with its own class is what some row became. -/
theorem exists_rowConverted {registry : Registry} {view : View} {schema : Schema}
    {setting : Setting} {className : String} {isPure : Bool} {record : Record}
    (coherent : schema.Coherent registry)
    (member : record ∈ (run registry view schema
      (RecordType.ofSchema registry className schema isPure) setting).records) :
    ∃ row, RowConverted registry view schema
      (RecordType.ofSchema registry className schema isPure) row record := by
  rw [records_run] at member
  rcases List.mem_map.mp member with ⟨index, _, rfl⟩
  exact ⟨Schema.firstDataRow + index, rowConverted_ownPlan coherent index⟩

theorem rowsRead_run (registry : Registry) (view : View) (schema : Schema)
    (recordType : RecordType) (setting : Setting) :
    (run registry view schema recordType setting).rowsRead
      = view.rowCount - Schema.firstDataRow := by
  simp only [run, List.length_map, List.length_range]
  exact View.rowCount_sliceRows_none view Schema.firstDataRow

/-- Rows are read to become records or to be left out. -/
theorem rowsRead_eq_add (registry : Registry) (view : View) (schema : Schema)
    (recordType : RecordType) (setting : Setting) :
    (run registry view schema recordType setting).rowsRead
      = (run registry view schema recordType setting).records.length
        + (run registry view schema recordType setting).rowsSkipped := by
  have bound : (run registry view schema recordType setting).records.length
      ≤ (run registry view schema recordType setting).rowsRead :=
    List.length_filterMap_le _ _
  have left : (run registry view schema recordType setting).rowsSkipped
      = (run registry view schema recordType setting).rowsRead
        - (run registry view schema recordType setting).records.length := rfl
  omega

theorem length_keptRows (view : View) (schema : Schema) (keys : List String) :
    view.rowCount - Schema.firstDataRow
      = (keptRows view schema keys).length
        + ((dataRows view).filter fun row => decide (Keyless view schema keys row)).length := by
  have parts := (dataRows view).length_eq_length_filter_add fun row =>
    decide (Keyless view schema keys row)
  have sized : (dataRows view).length = view.rowCount - Schema.firstDataRow := by simp [dataRows]
  rw [← sized, parts, Nat.add_comm]
  rfl

/-- The problems of a sheet with its own class are those of its rows. -/
theorem issues_run {registry : Registry} {view : View} {schema : Schema} {setting : Setting}
    (coherent : schema.Coherent registry) (className : String) (isPure : Bool) :
    (run registry view schema (RecordType.ofSchema registry className schema isPure)
        setting).report.issues
      = (dataRows view).flatMap (rowIssues registry view schema setting.keys) := by
  have agreeing : schema.valid.filterMap
      (mismatch? registry (RecordType.ofSchema registry className schema isPure)) = [] := by
    rw [List.filterMap_eq_nil_iff]
    intro column member
    exact mismatch?_ofSchema coherent className isPure member
  have sized : (ownPlan registry view schema setting className isPure).data.rowCount
      = view.rowCount - Schema.firstDataRow :=
    View.rowCount_sliceRows_none view Schema.firstDataRow
  simp only [run, agreeing, sized, List.nil_append, Report.issues_ofIssues, dataRows,
    List.flatMap_map, issues_ownPlan coherent]

/-- A sheet that is read with its own columns and record class is read completely. -/
theorem run_complete (registry : Registry) (view : View) (setting : Setting) (className : String)
    (isPure : Bool) :
    Complete registry view (Schema.derive registry view)
      (RecordType.ofSchema registry className (Schema.derive registry view) isPure) setting.keys
      (run registry view (Schema.derive registry view)
        (RecordType.ofSchema registry className (Schema.derive registry view) isPure) setting) := by
  have coherent := Schema.coherent_derive registry view
  have placed := Schema.placed_derive registry view
  generalize Schema.derive registry view = schema at coherent placed
  have records : List.Forall₂
      (RowConverted registry view schema
        (RecordType.ofSchema registry className schema isPure))
      (keptRows view schema setting.keys)
      (run registry view schema (RecordType.ofSchema registry className schema isPure)
        setting).records := by
    rw [records_run, keptRows, dataRows, List.filter_map, List.forall₂_map_left_iff,
      List.forall₂_map_right_iff]
    apply List.forall₂_same.mpr
    intro index _
    exact rowConverted_ownPlan coherent index
  have read := rowsRead_run registry view schema
    (RecordType.ofSchema registry className schema isPure) setting
  have total := rowsRead_eq_add registry view schema
    (RecordType.ofSchema registry className schema isPure) setting
  have parts := length_keptRows view schema setting.keys
  refine ⟨read, total, ?_, records, placed, ?_, issues_run coherent className isPure⟩
  · rw [records.length_eq] at parts
    omega
  · intro row _ column _
    exact cellAccounted registry view row column

end TypedSheets.Materialization
