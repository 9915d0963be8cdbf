import TypedSheets.Proofs.Materialization.Typing
import TypedSheets.Store.Basic

/-!
# Names of records

Of the records of a sheet either each has a name or none has. Without a name a record is
stored under its class. Where no warning of a duplicate name was logged, the named records
of a sheet have pairwise different names.
-/

namespace TypedSheets

/-- The name under which a record is stored. -/
def Record.storedName (record : Record) : String :=
  record.assetName.getD record.typeName

namespace Materialization

/-- The warning about a record whose name an earlier one has. -/
def duplicateWarning (name : String) (row : Nat) : LogEntry :=
  LogEntry.warning ("Duplicate asset name '" ++ name ++ "' at row " ++ Nat.repr row)

/-- Whether a log holds no warning of a duplicate name. -/
def NoDuplicates (log : RunLog) : Prop :=
  ∀ name row, duplicateWarning name row ∉ log

/-- Names about which nothing was logged are new, and differ from each other. -/
theorem nodup_of_noDuplicates {seen : List String} {records : List Record}
    (quiet : NoDuplicates (duplicateWarnings seen records)) :
    (records.filterMap Record.assetName).Nodup
      ∧ ∀ name ∈ records.filterMap Record.assetName, name ∉ seen := by
  induction records generalizing seen with
  | nil => simp
  | cons record records ih =>
      rw [duplicateWarnings] at quiet
      cases named : record.assetName with
      | none =>
          rw [named] at quiet
          rw [List.filterMap_cons_none named]
          exact ih quiet
      | some name =>
          rw [named] at quiet
          simp only at quiet
          split at quiet
          · exact absurd List.mem_cons_self (quiet name (record.row.getD 0))
          · next new =>
              rcases ih quiet with ⟨distinct, others⟩
              rw [List.filterMap_cons_some named]
              refine ⟨List.nodup_cons.mpr ⟨?_, distinct⟩, ?_⟩
              · intro again
                exact others name again List.mem_cons_self
              · intro other member
                rcases List.mem_cons.mp member with rfl | later
                · simpa using new
                · exact fun before => others other later (List.mem_cons_of_mem _ before)

variable {registry : Registry} {view : View} {schema : Schema} {recordType : RecordType}
  {setting : Setting}

theorem unnamed_of_isPure (isPure : recordType.isPure = true) {record : Record}
    (member : record ∈ (run registry view schema recordType setting).records) :
    record.assetName = none ∧ record.storedName = recordType.name := by
  rcases exists_row_of_mem_run member with ⟨row, rfl⟩
  rcases exists_fields_fill (plan registry view schema recordType setting) row with
    ⟨fields, filled⟩
  have same : (plan registry view schema recordType setting).recordType = recordType := rfl
  simp [Record.storedName, Plan.record, same, isPure, filled]

theorem isSome_assetName (notPure : recordType.isPure = false) {record : Record}
    (member : record ∈ (run registry view schema recordType setting).records) :
    record.assetName.isSome = true := by
  rcases exists_row_of_mem_run member with ⟨row, rfl⟩
  have same : (plan registry view schema recordType setting).recordType = recordType := rfl
  simp [Plan.record, same, notPure]

/-- Where no duplicate name was logged, the records of a sheet are stored under different
names unless they have none and are several. -/
theorem nodup_storedNames_run_iff
    (quiet : NoDuplicates (run registry view schema recordType setting).log) :
    ((run registry view schema recordType setting).records.map Record.storedName).Nodup
      ↔ ((∀ record ∈ (run registry view schema recordType setting).records,
            record.assetName = none) →
          (run registry view schema recordType setting).records.length ≤ 1) := by
  have own : NoDuplicates
      (duplicateWarnings [] (run registry view schema recordType setting).records) := by
    intro name row member
    exact quiet name row (List.mem_append_left _ (List.mem_append_right _ member))
  have unnamed := @unnamed_of_isPure registry view schema recordType setting
  have named := @isSome_assetName registry view schema recordType setting
  generalize (run registry view schema recordType setting).records = records at *
  cases isPure : recordType.isPure with
  | true =>
      have same : records.map Record.storedName
          = List.replicate records.length recordType.name := by
        rw [List.eq_replicate_iff, List.length_map]
        refine ⟨rfl, ?_⟩
        intro name member
        rcases List.mem_map.mp member with ⟨record, listed, rfl⟩
        exact (unnamed isPure listed).2
      rw [same, List.nodup_replicate]
      exact ⟨fun few _ => few, fun few => few fun record listed => (unnamed isPure listed).1⟩
  | false =>
      have names : records.map Record.storedName = records.filterMap Record.assetName := by
        rw [← List.filterMap_eq_map]
        apply List.filterMap_congr
        intro record listed
        rcases Option.isSome_iff_exists.mp (named isPure listed) with ⟨name, here⟩
        simp [Record.storedName, here]
      rw [names]
      refine iff_of_true (nodup_of_noDuplicates own).1 ?_
      intro without
      cases records with
      | nil => exact Nat.zero_le 1
      | cons record records =>
          have some := named isPure (List.mem_cons_self (a := record))
          rw [without record List.mem_cons_self] at some
          cases some

end Materialization

end TypedSheets
