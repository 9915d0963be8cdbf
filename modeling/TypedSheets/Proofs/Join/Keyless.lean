import Mathlib.Data.List.Nodup
import TypedSheets.Proofs.Join.Delivery
import TypedSheets.Proofs.Materialization.Rows

/-!
# Rows without a key

A row whose key has no value in the sheet still has a record, and the record holds the
value that its key field starts with. Where that is `null`, the record is linked nowhere.
A number, a truth value, an enumeration and a vector start with a value that a row of the
table may hold: then the record is linked to the first such row as if its key said so.
-/

namespace TypedSheets

namespace Materialization

/-- Whether a row gives a field no value: the cell of every column of the field is blank,
or its text has no value. -/
def Unassigned (registry : Registry) (view : View) (schema : Schema) (row : Nat) (name : String) :
    Prop :=
  ∀ column ∈ schema.valid, column.baseName = name → assigned? registry view row column = none

theorem Unassigned.assignments_eq_nil {registry : Registry} {view : View} {schema : Schema}
    {row : Nat} {name : String} (unassigned : Unassigned registry view schema row name) :
    assignments registry view schema row name = [] := by
  rw [assignments, List.filterMap_eq_nil_iff]
  intro column member
  rcases List.mem_filter.mp member with ⟨fills, named⟩
  exact unassigned column (List.mem_of_mem_filter fills) (eq_of_beq named)

/-- No two records of a sheet are alike, for each has the number of its row. -/
theorem nodup_records_run (registry : Registry) (view : View) (schema : Schema)
    (recordType : RecordType) (setting : Setting) :
    (run registry view schema recordType setting).records.Nodup := by
  have numbers : (run registry view schema recordType setting).records.map Record.row
      = ((List.range (view.rowCount - Schema.firstDataRow)).filter fun index =>
          !decide (Keyless view schema setting.keys (Schema.firstDataRow + index))).map
            fun index => some (Schema.firstDataRow + index) := by
    rw [records_run, List.map_map]
    apply List.map_congr_left
    intro index member
    exact row_record _ index
  apply List.Nodup.of_map Record.row
  rw [numbers]
  apply List.Nodup.map
  · intro first second same
    simpa using same
  · exact List.nodup_range.filter _

/-- The record class that a sheet itself declares. -/
abbrev sheetType (registry : Registry) (view : View) (className : String) (isPure : Bool) :
    RecordType :=
  RecordType.ofSchema registry className (Schema.derive registry view) isPure

/-- The records of a sheet, read with its own columns and record class. -/
abbrev sheetRecords (registry : Registry) (view : View) (setting : Setting) (className : String)
    (isPure : Bool) : List Record :=
  (run registry view (Schema.derive registry view) (sheetType registry view className isPure)
    setting).records

/-- A field without a value in the row of a record holds what it starts with. -/
theorem get?_of_unassigned {registry : Registry} {view : View} {setting : Setting}
    {className : String} {isPure : Bool} {record : Record} {row : Nat} {name : String}
    {field : FieldDescriptor}
    (member : record ∈ sheetRecords registry view setting className isPure)
    (numbered : record.row = some row)
    (unassigned : Unassigned registry view (Schema.derive registry view) row name)
    (found : (sheetType registry view className isPure).field? name = some field) :
    record.get? name = some field.type.zero := by
  rcases exists_rowConverted (Schema.coherent_derive registry view) member with ⟨other, converted⟩
  obtain rfl := Option.some.inj (converted.numbered.symm.trans numbered)
  exact converted.untouched name field found unassigned.assignments_eq_nil

end Materialization

namespace Join

/-- A record that the run does not repeat is delivered to the row that it belongs to when
its turn comes. -/
theorem mem_delivered_iff {join : JoinSetting} {localType : RecordType} {target : Table}
    {earlier later : List Record} {record : Record} (single : (earlier ++ record :: later).Nodup)
    (row : Nat) :
    record ∈ delivered join localType (earlier ++ record :: later) target row
      ↔ rowOf? join (lookup join localType target) (run join localType earlier target).2.records
          record = some row := by
  have fresh : record ∉ earlier := by
    intro member
    exact (List.nodup_append.mp single).2.2 record member record List.mem_cons_self rfl
  have last : record ∉ later := (List.nodup_cons.mp (List.nodup_append.mp single).2.1).1
  rw [delivered, received_append, ← run_records, List.mem_append]
  simp only [received]
  constructor
  · rintro (before | here)
    · exact absurd ((received_sublist _ _ _).mem before) fresh
    · split at here
      · next belongs => exact belongs
      · exact absurd ((received_sublist _ _ _).mem here) last
  · intro belongs
    rw [if_pos belongs]
    exact Or.inr List.mem_cons_self

/-- The record of a row without a key is delivered to a row of the table exactly if the
fields and the finder of the join exist, the key field does not start with `null`, and the
row is the first to hold what the key field starts with when the turn of the record comes. -/
theorem keyless_mem_delivered_iff (join : JoinSetting) {registry : Registry} {view : View}
    {setting : Setting} {className : String} {isPure : Bool} {target : Table} {earlier later : List Record}
    {record : Record} {sheetRow : Nat} (builtIn : target.HasBuiltInFinders)
    (records : Materialization.sheetRecords registry view setting className isPure
      = earlier ++ record :: later)
    (numbered : record.row = some sheetRow)
    (keyless : Materialization.Unassigned registry view (Schema.derive registry view) sheetRow
      join.localKeyField) (row : Nat) :
    let localType := Materialization.sheetType registry view className isPure
    record ∈ delivered join localType (earlier ++ record :: later) target row
      ↔ FieldsPresent join localType target.recordType
        ∧ ∃ field key, localType.field? join.localKeyField = some field
          ∧ field.type.zero.isNull = false
          ∧ target.searchKey? join.targetFinder = some key
          ∧ (run join localType earlier target).2.records.findIdx?
              (·.holdsKey key field.type.zero) = some row := by
  intro localType
  have single : (earlier ++ record :: later).Nodup :=
    records ▸ Materialization.nodup_records_run _ _ _ _ _
  have member : record ∈ Materialization.sheetRecords registry view setting className isPure :=
    records ▸ List.mem_append_right _ List.mem_cons_self
  rw [mem_delivered_iff single, rowOf?_lookup_eq_some_iff builtIn]
  apply and_congr_right
  intro present
  rcases Option.isSome_iff_exists.mp present.2.2 with ⟨field, found⟩
  have key : keyOf join record = field.type.zero := by
    rw [keyOf, Materialization.get?_of_unassigned member numbered keyless found, Option.getD_some]
  rw [key]
  constructor
  · rintro ⟨valued, searched, named, first⟩
    exact ⟨field, searched, found, valued, named, first⟩
  · rintro ⟨other, searched, also, valued, named, first⟩
    obtain rfl := Option.some.inj (found.symm.trans also)
    exact ⟨valued, searched, named, first⟩

/-- Drops whose item is left blank in one row and no number in the next. -/
def keylessSheet : View :=
  (Grid.ofRows [["item_id", "chance"], ["int", "int"], ["", "5"], ["x", "7"]]).view

/-- A drop of the sheet: without an item it holds zero. -/
def keylessDrop (row : Nat) (chance : Value) : Record :=
  ⟨"ItemDrop", none, some row, [("item_id", .int 0), ("chance", chance)]⟩

/-- An item with the number zero. -/
def zeroItems : Table :=
  Table.ofRecords "ItemTable" sampleItems.recordType .dictionary ["id"] [
    ⟨"Item", some "Item_0", some 2, [("id", .int 0), ("drops", .null)]⟩]

theorem keylessSheet_records :
    Materialization.sheetRecords Registry.empty keylessSheet
        (Setting.ofClass "ItemDrop" .recordClass) "ItemDrop" true
      = [keylessDrop 2 (.int 5)] ++ keylessDrop 3 (.int 7) :: [] := by cbv

theorem keylessSheet_unassigned {row : Nat} (lacking : row = 2 ∨ row = 3) :
    Materialization.Unassigned Registry.empty keylessSheet
      (Schema.derive Registry.empty keylessSheet) row "item_id" := by
  have valid : (Schema.derive Registry.empty keylessSheet).valid
      = [⟨"item_id", "int", false, "item_id", true, some 0⟩,
        ⟨"chance", "int", false, "chance", true, some 1⟩] := by cbv
  intro column member named
  rw [valid] at member
  simp only [List.mem_cons, List.not_mem_nil, or_false] at member
  rcases member with rfl | rfl
  · rcases lacking with rfl | rfl
    · cbv
    · cbv
  · simp at named

theorem keylessDrop_delivered :
    zeroItems.HasBuiltInFinders
      ∧ keylessDrop 3 (.int 7) ∈ delivered sampleJoin
        (Materialization.sheetType Registry.empty keylessSheet "ItemDrop" true)
        ([keylessDrop 2 (.int 5)] ++ keylessDrop 3 (.int 7) :: []) zeroItems 0 := by
  have builtIn : zeroItems.HasBuiltInFinders := rfl
  have present : FieldsPresent sampleJoin
      (Materialization.sheetType Registry.empty keylessSheet "ItemDrop" true)
      zeroItems.recordType := by
    refine ⟨?_, ?_, ?_⟩
    · decide
    · decide
    · cbv
  have declared : (Materialization.sheetType Registry.empty keylessSheet "ItemDrop" true).field?
      sampleJoin.localKeyField = some ⟨"item_id", .int⟩ := by cbv
  have found : (run sampleJoin
      (Materialization.sheetType Registry.empty keylessSheet "ItemDrop" true)
      [keylessDrop 2 (.int 5)] zeroItems).2.records.findIdx? (·.holdsKey "id" (.int 0))
      = some 0 := by cbv
  have delivery := keyless_mem_delivered_iff sampleJoin builtIn keylessSheet_records rfl
    (keylessSheet_unassigned (Or.inr rfl)) 0
  exact ⟨builtIn, delivery.mpr ⟨present, ⟨"item_id", .int⟩, "id", declared, rfl, rfl, found⟩⟩

/-- Both drops without an item are appended to the item with the number zero. -/
theorem zeroItems_receive_keyless :
    zeroItems.HasBuiltInFinders
      ∧ (∀ row, row = 2 ∨ row = 3 → Materialization.Unassigned Registry.empty keylessSheet
          (Schema.derive Registry.empty keylessSheet) row sampleJoin.localKeyField)
      ∧ (run sampleJoin (Materialization.sheetType Registry.empty keylessSheet "ItemDrop" true)
            (Materialization.sheetRecords Registry.empty keylessSheet
              (Setting.ofClass "ItemDrop" .recordClass) "ItemDrop" true)
            zeroItems).2.records[0]?.bind (·.get? "drops")
          = some (.array [.record (keylessDrop 2 (.int 5)), .record (keylessDrop 3 (.int 7))]) := by
  refine ⟨rfl, ?_, ?_⟩
  · intro row lacking
    exact keylessSheet_unassigned lacking
  · cbv

end Join

end TypedSheets
