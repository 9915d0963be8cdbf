import TypedSheets.Conversion.Materialization
import TypedSheets.Proofs.Record.Typing

/-!
# Columns and cells

When a column is bound to a field, and what the cells of a row leave in one field of
the record: the value of the last column that assigns to it, or for the columns that
make up an array the values of all of them.
-/

namespace TypedSheets

/-- A column is filled by joins when what it declares is. -/
@[simp] theorem ValueType.isJoinFilled_ofColumn (isArrayElement : Bool) (declared : ValueType) :
    (ofColumn isArrayElement declared).isJoinFilled = declared.isJoinFilled := by
  cases isArrayElement <;> rfl

namespace Materialization

/-- Whether a binding leads to a field of its type. -/
def Binding.Fits (binding : Binding) (recordType : RecordType) : Prop :=
  ∃ descriptor, recordType.field? binding.field.baseName = some descriptor
    ∧ descriptor.type = ValueType.ofColumn binding.field.isArrayElement binding.cellType

/-- A column is bound when the record class has its field in its type and no join fills
it. -/
theorem bind?_eq_some_iff {registry : Registry} {recordType : RecordType} {column : FieldSchema}
    {binding : Binding} :
    bind? registry recordType column = some binding
      ↔ binding.field = column
        ∧ registry.resolve? column.declaredType = some binding.cellType
        ∧ binding.Fits recordType
        ∧ binding.cellType.isJoinFilled = false := by
  constructor
  · intro bound
    rcases Option.bind_eq_some_iff.mp bound with ⟨cellType, resolved, bound⟩
    rcases Option.bind_eq_some_iff.mp bound with ⟨descriptor, found, bound⟩
    split at bound
    · next fits =>
        obtain rfl := Option.some.inj bound
        exact ⟨rfl, resolved, ⟨descriptor, found, fits.1⟩, by simpa using fits.2⟩
    · simp at bound
  · rintro ⟨rfl, resolved, ⟨descriptor, found, same⟩, unjoined⟩
    simp [bind?, resolved, found, same, unjoined]

theorem fits_of_mem_plan {registry : Registry} {view : View} {schema : Schema}
    {recordType : RecordType} {setting : Setting} {binding : Binding}
    (member : binding ∈ (plan registry view schema recordType setting).bindings) :
    binding.Fits recordType := by
  rcases List.mem_filterMap.mp member with ⟨column, _, bound⟩
  exact (bind?_eq_some_iff.mp bound).2.2.1

namespace CellOutcome

/-- The value that a cell gives, if it gives one. -/
def value? : CellOutcome → Option Value
  | .value given => some given
  | _ => none

end CellOutcome

/-- The values that the columns of a field give, in the order of the columns. -/
def valuesFor (name : String) (outcome : Binding → CellOutcome) (bindings : List Binding) :
    List Value :=
  (bindings.filter fun binding => binding.field.baseName == name).filterMap fun binding =>
    (outcome binding).value?

/-- Assigning changes nothing but fields. -/
theorem exists_fields_assign (record : Record) (binding : Binding) (outcome : CellOutcome) :
    ∃ fields, assign record binding outcome = { record with fields } := by
  rcases record with ⟨typeName, assetName, row, fields⟩
  cases outcome with
  | empty => exact ⟨fields, rfl⟩
  | failed => exact ⟨fields, rfl⟩
  | value value =>
      simp only [assign]
      split
      · exact ⟨_, rfl⟩
      · exact ⟨_, rfl⟩

theorem exists_fields_foldl_assign (bindings : List Binding) (outcome : Binding → CellOutcome)
    (record : Record) :
    ∃ fields, bindings.foldl (fun record binding => assign record binding (outcome binding)) record
      = { record with fields } := by
  induction bindings generalizing record with
  | nil =>
      rcases record with ⟨typeName, assetName, row, fields⟩
      exact ⟨fields, rfl⟩
  | cons binding bindings ih =>
      rcases exists_fields_assign record binding (outcome binding) with ⟨between, assigned⟩
      rcases ih (assign record binding (outcome binding)) with ⟨fields, filled⟩
      exact ⟨fields, by rw [List.foldl_cons, filled, assigned]⟩

/-- A record that was filled from a row has no name yet. -/
theorem exists_fields_fill (plan : Plan) (index : Nat) :
    ∃ fields, plan.fill index
      = ⟨plan.recordType.name, none, some (Schema.firstDataRow + index), fields⟩ :=
  exists_fields_foldl_assign _ _ _

/-- A record keeps the number of its row in the grid. -/
@[simp] theorem row_record (plan : Plan) (index : Nat) :
    (plan.record index).row = some (Schema.firstDataRow + index) := by
  rcases exists_fields_fill plan index with ⟨fields, filled⟩
  simp only [Plan.record]
  split
  · rw [filled]
  · rw [filled]

/-- Naming a record leaves its fields alone. -/
@[simp] theorem get?_record (plan : Plan) (index : Nat) (name : String) :
    (plan.record index).get? name = (plan.fill index).get? name := by
  simp only [Plan.record]
  split
  · rfl
  · rfl

theorem get?_assign_of_ne {record : Record} {binding : Binding} {name : String}
    (different : binding.field.baseName ≠ name) (outcome : CellOutcome) :
    (assign record binding outcome).get? name = record.get? name := by
  cases outcome with
  | empty => rfl
  | failed => rfl
  | value value =>
      simp only [assign]
      split
      · exact Record.get?_update_of_ne record different.symm _
      · exact Record.get?_update_of_ne record different.symm _

/-- What a row leaves in a field whose columns are all of one kind. -/
theorem get?_foldl_assign {name : String} {isArray : Bool} {bindings : List Binding}
    (kind : ∀ binding ∈ bindings, binding.field.baseName = name →
      binding.field.isArrayElement = isArray)
    (outcome : Binding → CellOutcome) (record : Record) :
    (bindings.foldl (fun record binding => assign record binding (outcome binding)) record).get? name
      = (record.get? name).map fun held =>
          if isArray then held.extendedBy (valuesFor name outcome bindings)
          else (valuesFor name outcome bindings).getLast?.getD held := by
  induction bindings generalizing record with
  | nil =>
      cases isArray <;> simp [valuesFor, Value.extendedBy]
  | cons binding bindings ih =>
      have rest := ih fun other member => kind other (List.mem_cons_of_mem _ member)
      rw [List.foldl_cons, rest]
      by_cases here : binding.field.baseName = name
      · have ofKind := kind binding List.mem_cons_self here
        cases gives : outcome binding with
        | empty => simp [valuesFor, here, gives, assign, CellOutcome.value?]
        | failed => simp [valuesFor, here, gives, assign, CellOutcome.value?]
        | value value =>
            have first : valuesFor name outcome (binding :: bindings)
                = value :: valuesFor name outcome bindings := by
              simp [valuesFor, here, gives, CellOutcome.value?]
            rw [first]
            cases isArray with
            | true =>
                simp only [assign, ofKind, ↓reduceIte, here, Record.append, Record.get?_update_self,
                  Option.map_map, Function.comp_def, Value.extendedBy_grown]
            | false =>
                simp only [assign, ofKind, Bool.false_eq_true, ↓reduceIte, here, Record.set,
                  Record.get?_update_self, Option.map_map, Function.comp_def,
                  List.getLast?_cons, Option.getD_some]
      · have skipped : valuesFor name outcome (binding :: bindings)
            = valuesFor name outcome bindings := by
          simp [valuesFor, here]
        rw [skipped, get?_assign_of_ne here]

/-- What a field of a record holds that was started from its class. -/
theorem get?_fill {plan : Plan} {name : String} {isArray : Bool}
    (kind : ∀ binding ∈ plan.bindings, binding.field.baseName = name →
      binding.field.isArrayElement = isArray) (index : Nat) :
    (plan.fill index).get? name
      = (plan.recordType.field? name).map fun descriptor =>
          if isArray then
            descriptor.type.zero.extendedBy (valuesFor name (plan.outcome index) plan.bindings)
          else
            (valuesFor name (plan.outcome index) plan.bindings).getLast?.getD descriptor.type.zero := by
  rw [Plan.fill, get?_foldl_assign kind]
  change (plan.recordType.instantiate.get? name).map _ = _
  rw [RecordType.get?_instantiate, Option.map_map]
  rfl

end Materialization

end TypedSheets
