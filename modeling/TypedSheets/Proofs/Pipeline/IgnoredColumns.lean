import TypedSheets.Proofs.Materialization.Rows
import TypedSheets.Proofs.Pipeline.Effects

/-!
# Columns that do not count

Comments, columns of unknown types and columns that disagree with earlier ones are not
valid. Their cells are read nowhere: sheets that differ only there convert into the same
records, problems, messages and tables, or fail with the same error.
-/

namespace TypedSheets

/-! ## What is read of a row -/

namespace Materialization.Plan

/-- Only the key columns decide whether a row is left out. -/
theorem lacksKey_congr {plan : Plan} {data : View} {index : Nat}
    (keys : ∀ column ∈ plan.keyColumns, cellOf plan.data index column = cellOf data index column) :
    plan.lacksKey index = { plan with data }.lacksKey index := by
  have blank : (plan.keyColumns.all fun column => Text.blank (cellOf plan.data index column))
      = plan.keyColumns.all fun column => Text.blank (cellOf data index column) := by
    rw [Bool.eq_iff_iff, List.all_eq_true, List.all_eq_true]
    exact forall₂_congr fun column member => by rw [keys column member]
  rw [lacksKey, lacksKey, blank]

/-- Only bound columns fill a record, and its fields and row name it. -/
theorem record_congr {plan : Plan} {data : View} {index : Nat}
    (cells : ∀ binding ∈ plan.bindings,
      plan.raw index binding = { plan with data }.raw index binding) :
    plan.record index = { plan with data }.record index := by
  have filled : plan.fill index = { plan with data }.fill index := by
    rw [fill, fill]
    apply List.foldl_ext
    intro record binding bound
    rw [outcome, outcome, cells binding bound]
  rw [record, record, filled]

/-- What a row becomes depends on the cells of its key columns and of the bound ones. -/
theorem row_congr {plan : Plan} {data : View} {index : Nat}
    (keys : ∀ column ∈ plan.keyColumns, cellOf plan.data index column = cellOf data index column)
    (cells : ∀ binding ∈ plan.bindings,
      plan.raw index binding = { plan with data }.raw index binding) :
    plan.row index = { plan with data }.row index := by
  have issues : (plan.bindings.filterMap fun binding =>
        cellIssue? (Schema.firstDataRow + index) binding (plan.raw index binding)
          (plan.outcome index binding))
      = plan.bindings.filterMap fun binding =>
          cellIssue? (Schema.firstDataRow + index) binding
            ({ plan with data }.raw index binding) ({ plan with data }.outcome index binding) := by
    apply List.filterMap_congr
    intro binding bound
    rw [outcome, outcome, cells binding bound]
  rw [row, row, lacksKey_congr keys, record_congr cells, issues]

end Materialization.Plan

/-! ## Sheets with the same valid columns -/

/-- Whether two views are of one size and show the same names, types and cells of the columns
that are valid under a registry. -/
structure View.SameColumns (registry : Registry) (left right : View) : Prop where
  rowCount : left.rowCount = right.rowCount
  columnCount : left.columnCount = right.columnCount
  names : ∀ column < left.columnCount,
    left.cell Schema.nameRow column = right.cell Schema.nameRow column
  types : ∀ column < left.columnCount,
    left.cell Schema.typeRow column = right.cell Schema.typeRow column
  cells : ∀ column ∈ (Schema.derive registry left).valid, ∀ position ∈ column.column,
    ∀ row < left.rowCount, left.cell row position = right.cell row position

namespace View.SameColumns

variable {registry : Registry} {left right : View}

/-- The names and types decide which columns there are. -/
theorem derive (same : SameColumns registry left right) :
    Schema.derive registry left = Schema.derive registry right := by
  rw [Schema.derive, Schema.derive, same.rowCount, same.columnCount]
  split
  · rfl
  · apply List.foldl_ext
    intro schema column inside
    have within : column < left.columnCount := by
      rw [same.columnCount]
      exact List.mem_range.mp inside
    rw [same.names column within, same.types column within]

/-- Valid columns have the same cells, also outside of the views. -/
theorem cellText (same : SameColumns registry left right) {column : FieldSchema}
    (valid : column ∈ (Schema.derive registry left).valid) (row : Nat) :
    Materialization.cellText left row column = Materialization.cellText right row column := by
  unfold Materialization.cellText
  cases placed : column.column with
  | none => rfl
  | some position =>
      by_cases within : row < left.rowCount
      · exact same.cells column valid position placed row within
      · have outside : ¬row < right.rowCount := same.rowCount ▸ within
        simp only [View.cell, within, outside, false_and, ↓reduceIte]

/-- The same rows become the same records with the same problems. -/
theorem row (same : SameColumns registry left right) (recordType : RecordType) (setting : Setting)
    (index : Nat) :
    (Materialization.plan registry left (Schema.derive registry left) recordType setting).row index
      = (Materialization.plan registry right (Schema.derive registry left) recordType setting).row
        index := by
  apply Materialization.Plan.row_congr
  case keys =>
    intro position member
    rcases List.mem_map.mp member with ⟨column, found, rfl⟩
    rcases List.mem_filterMap.mp found with ⟨key, _, found⟩
    simp only [Materialization.plan, Materialization.cellOf_data]
    exact same.cellText (Schema.mem_valid_of_find? found) _
  case cells =>
    intro binding bound
    rcases List.mem_filterMap.mp bound with ⟨column, valid, made⟩
    obtain rfl := (Materialization.bind?_eq_some_iff.mp made).1
    simp only [Materialization.Plan.raw, Materialization.plan, Materialization.cellOf_data]
    exact same.cellText valid _

/-- The same sheets give the same records, problems and messages. -/
theorem run (same : SameColumns registry left right) (recordType : RecordType) (setting : Setting) :
    Materialization.run registry left (Schema.derive registry left) recordType setting
      = Materialization.run registry right (Schema.derive registry left) recordType setting := by
  have sized : (left.sliceRows Schema.firstDataRow none).rowCount
      = (right.sliceRows Schema.firstDataRow none).rowCount := by
    rw [View.rowCount_sliceRows_none, View.rowCount_sliceRows_none, same.rowCount]
  have rows := funext (same.row recordType setting)
  rw [Materialization.run, Materialization.run, rows]
  simp only [Materialization.plan, sized]

end View.SameColumns

namespace Pipeline

/-- A sheet of records converts as any other sheet does that differs from it only in columns
that do not count: the answers are the same, and so are the pipelines after them. -/
theorem convertGrid_sameColumns {pipeline : Pipeline} {setting : Setting} {left right : View}
    (notEnum : setting.output ≠ .enum) (same : left.SameColumns pipeline.registry right) :
    pipeline.convertGrid setting left = pipeline.convertGrid setting right := by
  have records : pipeline.convertRecords setting left = pipeline.convertRecords setting right := by
    rw [convertRecords, convertRecords, ← same.derive, same.run, same.rowCount]
  rw [convertGrid, convertGrid, if_neg notEnum, if_neg notEnum, same.rowCount, records]

/-- Drops with a comment, a column of no type, and a second column of items that disagrees with
the first one. -/
def remarkedDrops (remark other item : String) : View :=
  (Grid.ofRows [
    ["#remark", "item_id", "other", "item_id", "chance"],
    ["string", "int", "?", "string", "int"],
    [remark, "1", other, item, "x"],
    ["", "9", "", "", "7"]]).view

theorem remarkedDrops_convert_alike :
    let sheet := remarkedDrops "common" "0" "1"
    let edited := remarkedDrops "" "none" "9"
    sampleDropList.output ≠ .enum ∧ sheet.SameColumns sampleStart.registry edited
      ∧ (sampleStart.convertGrid sampleDropList sheet).1.isOk = true
      ∧ sampleStart.convertGrid sampleDropList sheet
        = sampleStart.convertGrid sampleDropList edited := by
  intro sheet edited
  have notEnum : sampleDropList.output ≠ .enum := by decide
  have same : sheet.SameColumns sampleStart.registry edited :=
    ⟨by decide +kernel, by decide +kernel, by decide +kernel, by decide +kernel, by decide +kernel⟩
  have succeeds : (sampleStart.convertGrid sampleDropList sheet).1.isOk = true := by decide +kernel
  exact ⟨notEnum, same, succeeds, convertGrid_sameColumns notEnum same⟩

end Pipeline

end TypedSheets
