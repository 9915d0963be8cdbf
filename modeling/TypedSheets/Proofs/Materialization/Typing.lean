import Mathlib
import TypedSheets.Proofs.Conversion.Typing
import TypedSheets.Proofs.Materialization.Cells

/-!
# Records of a sheet are well-typed

Whether or not the record class belongs to the sheet, every record read from it has the
fields of the class, with values of the types that the class declares. Columns that
disagree with the class are not bound, and a bound column only assigns what its own type
accepts.
-/

namespace TypedSheets

/-- Whether a record is well-typed only depends on its fields. -/
theorem Record.WellTyped.of_fields {record other : Record} {type : RecordType}
    (typed : record.WellTyped type) (same : other.fields = record.fields) : other.WellTyped type where
  hasFields := by
    simp only [HasFieldsOf]
    rw [same]
    exact typed.hasFields
  accepted := by
    intro name value reads
    apply typed.accepted name value
    simp only [get?] at reads ⊢
    rw [← same]
    exact reads

namespace Materialization

/-- The value of a cell is of the type of its column. -/
theorem accepts_readCell {registry : Registry} {binding : Binding} {raw : String} {value : Value}
    (gives : readCell registry binding raw = .value value) :
    binding.cellType.accepts value = true := by
  simp only [readCell] at gives
  split at gives
  · simp at gives
  · cases converted : registry.convertCell? binding.cellType raw with
    | none =>
        rw [converted] at gives
        simp at gives
    | some made =>
        rw [converted] at gives
        obtain rfl := CellOutcome.value.inj gives
        exact Registry.accepts_convertCell? converted

/-- A cell of a bound column keeps a record well-typed. -/
theorem wellTyped_assign {recordType : RecordType} {binding : Binding} {outcome : CellOutcome}
    (fits : binding.Fits recordType)
    (accepted : ∀ value, outcome = .value value → binding.cellType.accepts value = true)
    {record : Record} (typed : record.WellTyped recordType) :
    (assign record binding outcome).WellTyped recordType := by
  rcases fits with ⟨descriptor, found, declared⟩
  cases outcome with
  | empty => exact typed
  | failed => exact typed
  | value value =>
      have fitting := accepted value rfl
      simp only [assign]
      cases kind : binding.field.isArrayElement with
      | true =>
          simp only [↓reduceIte]
          apply typed.update
          intro field held found' holds
          obtain rfl : descriptor = field := Option.some.inj (found.symm.trans found')
          rw [declared, kind] at holds ⊢
          exact ValueType.accepts_grown holds fitting
      | false =>
          simp only [Bool.false_eq_true, ↓reduceIte]
          apply typed.update
          intro field held found' _
          obtain rfl : descriptor = field := Option.some.inj (found.symm.trans found')
          rw [declared, kind]
          exact fitting

/-- The cells of a row, one after the other, keep a record well-typed. -/
theorem wellTyped_foldl_assign {recordType : RecordType} {bindings : List Binding}
    {outcome : Binding → CellOutcome} (fits : ∀ binding ∈ bindings, binding.Fits recordType)
    (accepted : ∀ binding value, outcome binding = .value value →
      binding.cellType.accepts value = true)
    {record : Record} (typed : record.WellTyped recordType) :
    (bindings.foldl (fun record binding => assign record binding (outcome binding)) record).WellTyped
      recordType := by
  induction bindings generalizing record with
  | nil => exact typed
  | cons binding bindings ih =>
      have others := fun other member => fits other (List.mem_cons_of_mem _ member)
      rw [List.foldl_cons]
      apply ih others
      exact wellTyped_assign (fits binding List.mem_cons_self) (accepted binding) typed

theorem wellTyped_record {plan : Plan}
    (fits : ∀ binding ∈ plan.bindings, binding.Fits plan.recordType) (row : Nat) :
    (plan.record row).WellTyped plan.recordType := by
  have started : Record.WellTyped
      { plan.recordType.instantiate with row := some (Schema.firstDataRow + row) }
      plan.recordType :=
    (Record.wellTyped_instantiate plan.recordType).of_fields rfl
  have filled : (plan.fill row).WellTyped plan.recordType :=
    wellTyped_foldl_assign fits (fun _ _ gives => accepts_readCell gives) started
  simp only [Plan.record]
  split
  · exact filled
  · exact filled.of_fields rfl

/-- A record of a sheet is the record of one of its rows. -/
theorem exists_row_of_mem_run {registry : Registry} {view : View} {schema : Schema}
    {recordType : RecordType} {setting : Setting} {record : Record}
    (member : record ∈ (run registry view schema recordType setting).records) :
    ∃ row, record = (plan registry view schema recordType setting).record row := by
  rcases List.mem_filterMap.mp member with ⟨outcome, listed, kept⟩
  rcases List.mem_map.mp listed with ⟨row, _, rfl⟩
  refine ⟨row, ?_⟩
  simp only [Plan.row] at kept
  split at kept
  · simp [RowOutcome.record?] at kept
  · exact (Option.some.inj kept).symm

/-- Every record read from a sheet is well-typed, whatever the record class is. -/
theorem run_wellTyped (registry : Registry) (view : View) (schema : Schema)
    (recordType : RecordType) (setting : Setting) :
    ∀ record ∈ (run registry view schema recordType setting).records,
      record.WellTyped recordType := by
  intro record member
  rcases exists_row_of_mem_run member with ⟨row, rfl⟩
  exact wellTyped_record (fun _ bound => fits_of_mem_plan bound) row

/-- Numbers, and lists of them over two columns. -/
def sampleLists : View :=
  (Grid.ofRows [["id", "sizes[0]", "sizes[1]"], ["int", "int[]", "int[]"],
    ["7", "1, 2", "3"]]).view

/-- A class of an earlier state of the sheet, which had a text for the number. -/
def sampleStale : RecordType :=
  ⟨"Shape", true, [⟨"sizes", .array (.array .int)⟩, ⟨"id", .string⟩]⟩

/-- The record of the row of numbers: what disagrees with the class is left alone. -/
def sampleShape : Record :=
  ⟨"Shape", none, some 2,
    [("sizes", .array [.array [.int 1, .int 2], .array [.int 3]]),
      ("id", .null)]⟩

theorem sampleShape_wellTyped :
    sampleShape ∈ (run Registry.empty sampleLists (Schema.derive Registry.empty sampleLists)
        sampleStale (Setting.ofClass "Shape" .recordClass)).records
      ∧ sampleShape.WellTyped sampleStale := by
  have member : sampleShape ∈ (run Registry.empty sampleLists
      (Schema.derive Registry.empty sampleLists) sampleStale
      (Setting.ofClass "Shape" .recordClass)).records := by
    have records : (run Registry.empty sampleLists (Schema.derive Registry.empty sampleLists)
        sampleStale (Setting.ofClass "Shape" .recordClass)).records = [sampleShape] := by cbv
    rw [records]
    exact List.mem_singleton_self _
  exact ⟨member, run_wellTyped _ _ _ _ _ _ member⟩

end Materialization

end TypedSheets
