import TypedSheets.Proofs.Diagnostics.Flags
import TypedSheets.Proofs.Materialization.Rows

/-!
# Sheets and record classes that disagree

Reading a sheet reports a disagreement with the record class exactly when a valid column
declares a field that the class lacks or has in another type. The class that is derived
from the sheet itself has every field in the type that its columns declare, because valid
columns of one name agree, so reading a sheet with its own class reports none.
-/

namespace TypedSheets

/-- Whether a column declares a field that a record class does not have in this type. -/
def FieldSchema.Disagrees (registry : Registry) (recordType : RecordType)
    (column : FieldSchema) : Prop :=
  ∃ type, column.fieldType? registry = some type
    ∧ (recordType.field? column.baseName).map FieldDescriptor.type ≠ some type

namespace Materialization

variable {registry : Registry} {recordType : RecordType}

/-- A column has an issue of its own when it disagrees with the record class. -/
theorem isSome_mismatch?_iff {column : FieldSchema} :
    (mismatch? registry recordType column).isSome = true ↔ column.Disagrees registry recordType := by
  simp only [mismatch?, FieldSchema.Disagrees, FieldSchema.fieldType?]
  cases registry.resolve? column.declaredType with
  | none => simp
  | some type =>
      cases recordType.field? column.baseName with
      | none => simp
      | some descriptor =>
          by_cases same : descriptor.type = ValueType.ofColumn column.isArrayElement type
          · simp [same]
          · simp [same]

theorem flag_of_mismatch? {column : FieldSchema} {issue : Issue}
    (found : mismatch? registry recordType column = some issue) :
    issue.flag = Flags.versionMismatch := by
  simp only [mismatch?] at found
  rcases Option.bind_eq_some_iff.mp found with ⟨type, _, found⟩
  split at found
  · obtain rfl := Option.some.inj found
    rfl
  · split at found
    · cases found
    · obtain rfl := Option.some.inj found
      rfl

/-- The issue of a cell is that it is blank or unreadable. -/
theorem flag_of_cellIssue? {row : Nat} {binding : Binding} {raw : String} {outcome : CellOutcome}
    {issue : Issue} (found : cellIssue? row binding raw outcome = some issue) :
    issue.flag = Flags.emptyCell ∨ issue.flag = Flags.convertFailed := by
  cases outcome with
  | empty =>
      obtain rfl := Option.some.inj found
      exact .inl rfl
  | failed =>
      obtain rfl := Option.some.inj found
      exact .inr rfl
  | value value => cases found

/-- The issues of a row are that it has no keys, or those of its cells. -/
theorem flag_of_mem_row {plan : Plan} {row : Nat} {issue : Issue}
    (member : issue ∈ (plan.row row).issues) :
    issue.flag ∈ [Flags.noKeySkip, Flags.emptyCell, Flags.convertFailed] := by
  rw [Plan.row] at member
  split at member
  · obtain rfl := List.mem_singleton.mp member
    exact List.mem_cons_self
  · rcases List.mem_filterMap.mp member with ⟨binding, _, found⟩
    rcases flag_of_cellIssue? found with empty | failed
    · simp [empty]
    · simp [failed]

/-- The issues of a sheet are those of its columns and those of its rows. -/
theorem flag_of_mem_run {view : View} {schema : Schema} {setting : Setting} {issue : Issue}
    (member : issue ∈ (run registry view schema recordType setting).report.issues) :
    issue.flag ∈ [Flags.versionMismatch, Flags.noKeySkip, Flags.emptyCell, Flags.convertFailed] := by
  simp only [run, Report.issues_ofIssues, List.mem_append] at member
  rcases member with ofColumn | ofRow
  · rcases List.mem_filterMap.mp ofColumn with ⟨column, _, found⟩
    rw [flag_of_mismatch? found]
    exact List.mem_cons_self
  · rcases List.mem_flatMap.mp ofRow with ⟨outcome, listed, member⟩
    rcases List.mem_map.mp listed with ⟨row, _, rfl⟩
    exact List.mem_cons_of_mem _ (flag_of_mem_row member)

/-- The issues of a sheet that report a disagreement are those of columns that disagree. -/
theorem exists_mismatch_iff (registry : Registry) (view : View) (schema : Schema)
    (recordType : RecordType) (setting : Setting) :
    (∃ issue ∈ (run registry view schema recordType setting).report.issues,
        issue.flag.contains Flags.versionMismatch = true)
      ↔ ∃ column ∈ schema.valid, column.Disagrees registry recordType := by
  simp only [run, Report.issues_ofIssues, List.mem_append, List.mem_filterMap, List.mem_flatMap]
  constructor
  · rintro ⟨issue, ⟨column, valid, found⟩ | ⟨outcome, listed, member⟩, reports⟩
    · exact ⟨column, valid, isSome_mismatch?_iff.mp (Option.isSome_of_eq_some found)⟩
    · rcases List.mem_map.mp listed with ⟨row, _, rfl⟩
      have others : ∀ flag ∈ [Flags.noKeySkip, Flags.emptyCell, Flags.convertFailed],
          ¬flag.contains Flags.versionMismatch = true := by decide
      exact absurd reports (others issue.flag (flag_of_mem_row member))
  · rintro ⟨column, valid, disagrees⟩
    rcases Option.isSome_iff_exists.mp (isSome_mismatch?_iff.mpr disagrees) with ⟨issue, found⟩
    refine ⟨issue, .inl ⟨column, valid, found⟩, ?_⟩
    rw [flag_of_mismatch? found]
    rfl

theorem isSingle_versionMismatch : Flags.versionMismatch.IsSingle := ⟨6, rfl⟩

/-- The report of a sheet names a disagreement exactly when some valid column has one. -/
theorem contains_mismatch_run_iff (registry : Registry) (view : View) (schema : Schema)
    (recordType : RecordType) (setting : Setting) :
    (run registry view schema recordType setting).report.flags.contains Flags.versionMismatch = true
      ↔ ∃ column ∈ schema.valid, column.Disagrees registry recordType := by
  rw [← exists_mismatch_iff registry view schema recordType setting]
  simp only [run, Report.contains_flags_ofIssues isSingle_versionMismatch, Report.issues_ofIssues,
    List.any_eq_true]

/-- The class of a sheet has the field of each of its valid columns. -/
theorem not_disagrees_ofSchema {schema : Schema} (coherent : schema.Coherent registry)
    (className : String) (isPure : Bool) {column : FieldSchema} (member : column ∈ schema.valid) :
    ¬column.Disagrees registry (RecordType.ofSchema registry className schema isPure) := by
  rintro ⟨type, declared, differs⟩
  rcases RecordType.field?_ofSchema coherent className isPure member with ⟨descriptor, found, typed⟩
  apply differs
  rw [found, Option.map_some, ← typed, declared]

/-- Valid columns of one name declare one field, and a sheet that is read with its own
record class reports no disagreement. -/
theorem run_ownClass_agrees (registry : Registry) (view : View) (setting : Setting)
    (className : String) (isPure : Bool) :
    (∀ column ∈ (Schema.derive registry view).valid,
        ∀ other ∈ (Schema.derive registry view).valid, column.baseName = other.baseName →
          column.isArrayElement = other.isArrayElement
            ∧ ∃ type, registry.resolve? column.declaredType = some type
              ∧ registry.resolve? other.declaredType = some type)
      ∧ (run registry view (Schema.derive registry view)
            (RecordType.ofSchema registry className (Schema.derive registry view) isPure)
            setting).report.flags.contains Flags.versionMismatch = false
      ∧ ∀ issue ∈ (run registry view (Schema.derive registry view)
            (RecordType.ofSchema registry className (Schema.derive registry view) isPure)
            setting).report.issues, issue.flag ≠ Flags.versionMismatch := by
  have coherent := Schema.coherent_derive registry view
  generalize Schema.derive registry view = schema at coherent
  have none : ¬∃ column ∈ schema.valid,
      column.Disagrees registry (RecordType.ofSchema registry className schema isPure) := by
    rintro ⟨column, member, disagrees⟩
    exact not_disagrees_ofSchema coherent className isPure member disagrees
  refine ⟨?_, ?_, ?_⟩
  · intro column member other among named
    have agrees := coherent.agree column member other among named
    rcases coherent.resolved column member with ⟨type, resolved⟩
    exact ⟨agrees.kind, type, resolved, agrees.type ▸ resolved⟩
  · rw [Bool.eq_false_iff]
    intro reports
    exact none ((contains_mismatch_run_iff registry view schema _ setting).mp reports)
  · intro issue member reports
    refine none ((exists_mismatch_iff registry view schema _ setting).mp ⟨issue, member, ?_⟩)
    rw [reports]
    rfl

end Materialization

end TypedSheets
