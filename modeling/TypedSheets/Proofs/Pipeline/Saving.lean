import TypedSheets.Proofs.Materialization.Rows
import TypedSheets.Proofs.Pipeline.Order
import TypedSheets.Proofs.Pipeline.Persistence

/-!
# What is stored of a run

Storing the outputs of a run is a sequence of saves: of records, output by output, as the
sheets gave them, and then of tables, setting by setting, as the joins left them. All of
them share the names of the store, so the last save of a name is what stays.
-/

namespace TypedSheets

/-! ## Fields that joins fill -/

/-- Whether a record holds nothing in the fields that joins fill. -/
def Record.Unjoined (record : Record) (recordType : RecordType) : Prop :=
  ∀ name field, recordType.field? name = some field → field.type.isJoinFilled = true →
    record.get? name = some .null

theorem ValueType.zero_of_isJoinFilled {type : ValueType} (joined : type.isJoinFilled = true) :
    type.zero = .null := by
  cases type with
  | record name => rfl
  | array element => rfl
  | _ => cases joined

namespace Materialization

/-- Columns that joins fill assign nothing. -/
theorem assignments_of_isJoinFilled {registry : Registry} {schema : Schema}
    (coherent : schema.Coherent registry) {className name : String} {isPure : Bool}
    {field : FieldDescriptor}
    (found : (RecordType.ofSchema registry className schema isPure).field? name = some field)
    (joined : field.type.isJoinFilled = true) (view : View) (row : Nat) :
    assignments registry view schema row name = [] := by
  have none : (filled registry schema).filter (fun column => column.baseName == name) = [] := by
    rw [List.filter_eq_nil_iff]
    intro column member named
    obtain rfl := eq_of_beq named
    rcases List.mem_filter.mp member with ⟨valid, unjoined⟩
    rcases RecordType.field?_ofSchema coherent className isPure valid with ⟨other, also, typed⟩
    obtain rfl := Option.some.inj (also.symm.trans found)
    simp [typed, joined] at unjoined
  rw [assignments, none, List.filterMap_nil]

/-- A sheet leaves the fields that joins fill as they start. -/
theorem unjoined_run {registry : Registry} {view : View} {schema : Schema} {setting : Setting}
    (coherent : schema.Coherent registry) (className : String) (isPure : Bool) :
    ∀ record ∈ (run registry view schema (RecordType.ofSchema registry className schema isPure)
        setting).records,
      record.Unjoined (RecordType.ofSchema registry className schema isPure) := by
  intro record member name field found joined
  rcases exists_rowConverted coherent member with ⟨row, converted⟩
  rw [← ValueType.zero_of_isJoinFilled joined]
  exact converted.untouched name field found
    (assignments_of_isJoinFilled coherent found joined view row)

end Materialization

/-! ## Sequences of saves -/

namespace Store

/-- Whether a store is what saves made of another one: it holds what the last save of each name
put there, and under all other names what was there before. -/
structure Saved (before left : Store) (saves : List Call) : Prop where
  directory : left.directory = before.directory
  last : ∀ front save back, saves = front ++ save :: back →
    (∀ later ∈ back, later.name ≠ save.name) → ∀ asset ∈ save.asset?,
      left.load save.name = .ok asset
  others : ∀ name, (∀ save ∈ saves, save.name ≠ name) → left.load name = before.load name

namespace Call

theorem lastSaved_of_notMem {name : String} {calls : List Call}
    (elsewhere : ∀ call ∈ calls, call.name ≠ name) (before : Option Asset) :
    lastSaved name before calls = before := by
  induction calls generalizing before with
  | nil => rfl
  | cons call calls ih =>
      rcases List.forall_mem_cons.mp elsewhere with ⟨first, others⟩
      rw [lastSaved, List.foldl_cons, if_neg first.symm]
      exact ih others before

/-- What was saved last is what counts. -/
theorem lastSaved_append_cons {call : Call} {back : List Call}
    (last : ∀ later ∈ back, later.name ≠ call.name) (front : List Call) (before : Option Asset) :
    lastSaved call.name before (front ++ call :: back) = call.asset? := by
  rw [lastSaved, List.foldl_append, List.foldl_cons, if_pos rfl]
  exact lastSaved_of_notMem last call.asset?

theorem saved_of_runAll {files after : Files} {store left : Store} {calls : List Call}
    (ran : runAll? files store calls = some (after, left)) : Saved store left calls := by
  rcases get?_runAll ran with ⟨directory, stored⟩
  constructor
  case directory => exact directory
  case last =>
    rintro front call back rfl last asset saved
    rw [load, stored, lastSaved_append_cons last, saved]
  case others =>
    intro name elsewhere
    rw [load, load, stored, lastSaved_of_notMem elsewhere]

/-- A call that saves succeeds when the save of its asset does. -/
theorem run?_of_asset? {call : Call} {asset : Asset} (saves : call.asset? = some asset)
    (files : Files) (store : Store) :
    call.run? files store = afterSuccess? (store.save files asset) := by
  cases call with
  | saveRecord now record =>
      cases saves
      rfl
  | saveTable now name table =>
      cases saves
      rfl
  | delete name => cases saves

end Call

end Store

namespace Pipeline

open Store (Call)

/-- Saving assets succeeds when the calls that save them succeed one after the other. -/
theorem saveAll_ok_iff {calls : List Call} {assets : List Asset}
    (saving : calls.map Call.asset? = assets.map some) {files after : Files} {store left : Store}
    {count : Nat} :
    saveAll files store assets = (.ok count, after, left)
      ↔ Call.runAll? files store calls = some (after, left) ∧ count = calls.length := by
  induction calls generalizing assets files store count with
  | nil =>
      obtain rfl : assets = [] := by simpa using saving.symm
      simp only [saveAll, Call.runAll?, Prod.mk.injEq, Except.ok.injEq, Option.some.injEq]
      rw [and_comm, eq_comm (a := 0), List.length_nil]
  | cons call calls ih =>
      rcases List.map_eq_cons_iff.mp saving.symm with ⟨asset, assets, rfl, first, rest⟩
      rw [saveAll, Call.runAll?, Call.run?_of_asset? first.symm]
      rcases store.save files asset with ⟨outcome, between, middle⟩
      cases outcome with
      | error error => simp [Store.afterSuccess?]
      | ok name =>
          simp only [Store.afterSuccess?, Option.bind_eq_bind, Option.bind_some]
          constructor
          · intro stored
            split at stored
            · cases stored
            · next others =>
                cases stored
                obtain ⟨ran, rfl⟩ := (ih rest.symm).mp others
                exact ⟨ran, rfl⟩
          · rintro ⟨ran, rfl⟩
            have others := (ih rest.symm).mpr ⟨ran, rfl⟩
            rw [others, List.length_cons]

/-! ## The saves of a run -/

/-- Whether the records of a setting are plain data: those that are joined into another table,
and those that are stored with their table only. -/
def PlainData (setting : Setting) : Prop :=
  setting.join.isSome = true ∨ setting.output = .table ∧ setting.tableOnly = true

instance (setting : Setting) : Decidable (PlainData setting) := inferInstanceAs (Decidable (_ ∨ _))

theorem isPureClass_iff (setting : Setting) : setting.isPureClass = true ↔ PlainData setting := by
  simp [Setting.isPureClass, Setting.isJoin, PlainData, or_comm]

/-- The saves of the records of an output: all of them as they stand in it, unless it is an
enumeration or the first setting of its class is missing or makes plain data. -/
def recordSaves (config : Config) (now : String) (output : ConversionOutput) : List Call :=
  match output.enumDef, config.settings.find? fun setting => setting.className == output.className with
  | none, some setting =>
      if PlainData setting then [] else output.records.map (Call.saveRecord now)
  | _, _ => []

/-- The save of the table of a setting as it is in the catalog, if the setting makes a table
and is no join. -/
def tableSave? (pipeline : Pipeline) (now : String) (setting : Setting) : Option Call :=
  if setting.output = .table ∧ setting.join = none then
    (pipeline.catalog.get? setting.className).map (Call.saveTable now setting.tableAsset)
  else none

/-- The saves that store outputs and tables, in their order. -/
def saves (pipeline : Pipeline) (now : String) (outputs : List ConversionOutput) : List Call :=
  outputs.flatMap (recordSaves pipeline.config now)
    ++ pipeline.config.settings.filterMap (pipeline.tableSave? now)

theorem storesRecords_eq (config : Config) (output : ConversionOutput) :
    storesRecords config output
      = (config.settings.find? fun setting => setting.className == output.className).any
          fun setting => output.enumDef.isNone && !setting.isPureClass := by
  rw [storesRecords, Config.setting]
  cases config.settings.find? fun setting => setting.className == output.className <;> rfl

theorem map_asset?_recordSaves (config : Config) (now : String) (output : ConversionOutput) :
    (recordSaves config now output).map Call.asset?
      = if storesRecords config output then
          (output.records.map (Store.assetOfRecord now)).map some
        else [] := by
  rw [storesRecords_eq, recordSaves]
  cases config.settings.find? fun setting => setting.className == output.className with
  | none => cases output.enumDef <;> rfl
  | some setting =>
      cases output.enumDef with
      | some definition => rfl
      | none =>
          by_cases plain : PlainData setting
          · simp [plain, (isPureClass_iff setting).mpr plain]
          · have stored := mt (isPureClass_iff setting).mp plain
            simp only [if_neg plain, Bool.eq_false_iff.mpr stored, Option.any_some, Option.isNone_none,
              Bool.not_false, Bool.and_true, List.map_map]
            rfl

theorem map_asset?_tableSave? (pipeline : Pipeline) (now : String) (setting : Setting) :
    (pipeline.tableSave? now setting).map Call.asset?
      = if setting.output == .table && !setting.isJoin then
          ((pipeline.catalog.get? setting.className).map
            (Store.assetOfTable now setting.tableAsset)).map some
        else none := by
  have saved : (setting.output == .table && !setting.isJoin) = true
      ↔ setting.output = .table ∧ setting.join = none := by
    simp [Setting.isJoin]
  rw [tableSave?, if_congr saved rfl rfl]
  split
  · rw [Option.map_map, Option.map_map]
    rfl
  · rfl

/-- The saves are those of the assets of the records and tables. -/
theorem map_asset?_saves (pipeline : Pipeline) (now : String) (outputs : List ConversionOutput) :
    (pipeline.saves now outputs).map Call.asset?
      = (pipeline.recordAssets now outputs ++ pipeline.tableAssets now).map some := by
  have records : (outputs.flatMap (recordSaves pipeline.config now)).map Call.asset?
      = (pipeline.recordAssets now outputs).map some := by
    rw [recordAssets]
    induction outputs with
    | nil => rfl
    | cons output outputs ih =>
        rw [List.flatMap_cons, List.map_append, ih, map_asset?_recordSaves, List.filter_cons]
        split
        · rw [List.flatMap_cons, List.map_append]
        · rfl
  have tables : (pipeline.config.settings.filterMap (pipeline.tableSave? now)).map Call.asset?
      = (pipeline.tableAssets now).map some := by
    rw [tableAssets, List.map_filterMap, List.filterMap_filter, List.map_filterMap]
    apply List.filterMap_congr
    intro setting _
    rw [map_asset?_tableSave?]
    split <;> rfl
  rw [saves, List.map_append, List.map_append, records, tables]

/-- Storing outputs succeeds when all saves do, and tells how many there were. -/
theorem persist_ok_iff {pipeline : Pipeline} {now : String} {outputs : List ConversionOutput}
    {files after : Files} {store left : Store} {count : Nat} :
    pipeline.persist now outputs files store = (.ok count, after, left)
      ↔ Call.runAll? files store (pipeline.saves now outputs) = some (after, left)
        ∧ count = (pipeline.saves now outputs).length := by
  rw [← saveAll_ok_iff (pipeline.map_asset?_saves now outputs), persist]
  rcases saveAll files store (pipeline.recordAssets now outputs ++ pipeline.tableAssets now) with
    ⟨outcome, between, middle⟩
  cases outcome with
  | error error => simp
  | ok saved => simp

/-- A conversion joins nothing into the records that it answers with. -/
theorem unjoined_of_convertGrid {before after : Pipeline} {setting : Setting} {view : View}
    {output : ConversionOutput} (converted : before.convertGrid setting view = (.ok output, after)) :
    ∀ recordType ∈ output.recordType, ∀ record ∈ output.records, record.Unjoined recordType := by
  have ends := convertGrid_ends before setting view
  rw [converted] at ends
  cases ends with
  | enumeration => exact fun recordType none => nomatch none
  | converted =>
      intro recordType made
      obtain rfl := Option.some.inj made
      exact Materialization.unjoined_run (Schema.coherent_derive _ _) _ _

/-- What it means that outputs were stored. -/
structure Persists (pipeline : Pipeline) (now : String) (outputs : List ConversionOutput)
    (files : Files) (store : Store) (after : Files) (left : Store) : Prop where
  /-- The number of saves is answered. -/
  answer : pipeline.persist now outputs files store
    = (.ok (pipeline.saves now outputs).length, after, left)
  /-- What was saved last under each name is there, and all else is as it was. -/
  saved : Store.Saved store left (pipeline.saves now outputs)
  /-- The files tell the same where they did before. -/
  reopens : ∀ directory, Store.Mirrors directory files store →
    (∀ save ∈ pipeline.saves now outputs, ∀ asset ∈ save.asset?, asset.Keepable) →
      Store.ofDirectory after store.directory = left
  /-- The records that conversions answered hold no joined rows. -/
  unjoined : ∀ output ∈ outputs,
    (∃ (before : Pipeline) (setting : Setting) (view : View) (between : Pipeline),
        before.convertGrid setting view = (.ok output, between)) →
      ∀ recordType ∈ output.recordType, ∀ record ∈ output.records, record.Unjoined recordType

/-- When every save succeeds, the outputs are stored: records as the outputs have them, then
tables as the catalog has them. -/
theorem persist_of_saves {pipeline : Pipeline} {now : String} {outputs : List ConversionOutput}
    {files after : Files} {store left : Store}
    (saved : Call.runAll? files store (pipeline.saves now outputs) = some (after, left)) :
    Persists pipeline now outputs files store after left := by
  constructor
  case answer => exact persist_ok_iff.mpr ⟨saved, rfl⟩
  case saved => exact Store.Call.saved_of_runAll saved
  case reopens =>
    intro directory mirrors keepable
    rcases mirrors.runAll keepable saved with ⟨stays, _, mirrors⟩
    rw [← stays]
    exact mirrors.ofDirectory_eq
  case unjoined =>
    rintro output _ ⟨before, setting, view, between, converted⟩
    exact unjoined_of_convertGrid converted

/-- The outputs of the chain of joins and the pipeline that it left. -/
def chainRun : List ConversionOutput × Pipeline :=
  let (converted, final) := (ofConfig chainConfig .shipped).convertAll chainFiles
  (converted.toOption.getD [], final)

/-- What an asset of shops holds. -/
structure ShopSummary where
  name : String
  kind : AssetKind
  className : String
  /-- The names, rows and numbers of the shops, and how many items each has. -/
  shops : List (String × Option Nat × Option Int64 × Nat)
deriving DecidableEq

def ShopSummary.ofAsset (asset : Asset) : ShopSummary :=
  ⟨asset.name, asset.kind, asset.className, asset.records.map fun shop =>
    (shop.storedName, shop.row, (shop.get? "id").bind Value.asWord?, Join.itemCount "items" [shop])⟩

/-- The shop is stored twice, as a record without items and as a table with them. -/
theorem chainedShops_stored :
    let saves := chainRun.2.saves "2024-01-01T00:00:00+00:00" chainRun.1
    let store := Store.ofDirectory chainFiles "assets"
    saves.map Call.name = ["Shop_7", "ShopTable"]
      ∧ ∃ after left, Call.runAll? chainFiles store saves = some (after, left)
        ∧ left.list.map ShopSummary.ofAsset = [
          ⟨"ShopTable", .table, "Shop", [("Shop_7", some 2, some 7, 1)]⟩,
          ⟨"Shop_7", .record, "Shop", [("Shop_7", some 2, some 7, 0)]⟩]
        ∧ Persists chainRun.2 "2024-01-01T00:00:00+00:00" chainRun.1 chainFiles store after left := by
  intro saves store
  have named : saves.map Call.name = ["Shop_7", "ShopTable"] := by decide +kernel
  have succeeds : (Call.runAll? chainFiles store saves).map (fun state =>
      state.2.list.map ShopSummary.ofAsset) = some [
        ⟨"ShopTable", .table, "Shop", [("Shop_7", some 2, some 7, 1)]⟩,
        ⟨"Shop_7", .record, "Shop", [("Shop_7", some 2, some 7, 0)]⟩] := by
    decide +kernel
  rcases Option.map_eq_some_iff.mp succeeds with ⟨⟨after, left⟩, saved, listed⟩
  exact ⟨named, after, left, saved, listed, persist_of_saves saved⟩

end Pipeline

end TypedSheets
