import Mathlib.Data.List.Forall2
import TypedSheets.Proofs.Schema.Agreement
import TypedSheets.Proofs.Types.Resolution

/-!
# Declared fields are those of the record class

The columns that a generated class declares are the first ones of each name. They are
the fields of the record class of the schema one by one, and the type name written for
each of them stands for the type of the field.
-/

namespace TypedSheets

/-- Whether the declaration of a column is that of a field: it writes its name, and a name
of its type. -/
structure FieldSchema.Declares (registry : Registry) (column : FieldSchema)
    (field : FieldDescriptor) : Prop where
  name : column.baseName = field.name
  type : registry.resolve? column.typeText = some field.type

namespace Schema

/-- The fields that columns add to some fields are declared by the first columns of the
names that those do not have. -/
theorem exists_declared_firstOfName {registry : Registry} {columns : Schema} {seen : List String}
    {fields : List FieldDescriptor}
    (resolved : ∀ column ∈ columns, ∃ type, registry.resolve? column.declaredType = some type)
    (known : ∀ name, seen.contains name = fields.any fun field => field.name == name) :
    ∃ added, columns.foldl (RecordType.addColumn registry) fields = fields ++ added
      ∧ List.Forall₂ (FieldSchema.Declares registry) (firstOfName seen columns) added := by
  induction columns generalizing seen fields with
  | nil => exact ⟨[], by simp, .nil⟩
  | cons column columns ih =>
      have others := fun other member => resolved other (List.mem_cons_of_mem _ member)
      rw [List.foldl_cons, firstOfName]
      cases present : seen.contains column.baseName with
      | true =>
          have kept : RecordType.addColumn registry fields column = fields := by
            rw [RecordType.addColumn, ← known, present]
            rfl
          rw [kept, if_pos rfl]
          exact ih others known
      | false =>
          rcases resolved column List.mem_cons_self with ⟨type, declared⟩
          let field : FieldDescriptor :=
            ⟨column.baseName, ValueType.ofColumn column.isArrayElement type⟩
          have extended : RecordType.addColumn registry fields column = fields ++ [field] := by
            rw [RecordType.addColumn, ← known, present, declared]
            rfl
          have alsoKnown : ∀ name, (column.baseName :: seen).contains name
              = (fields ++ [field]).any fun field => field.name == name := by
            intro name
            rw [List.contains_cons, known, List.any_append, Bool.or_comm]
            simp [field, Bool.beq_comm]
          rcases ih others alsoKnown with ⟨added, fold, declares⟩
          refine ⟨field :: added, ?_, ?_⟩
          · rw [extended, fold, List.append_assoc, List.singleton_append]
          · rw [if_neg (by simp)]
            exact .cons ⟨rfl, FieldSchema.resolve?_typeText declared⟩ declares

/-- The columns that a class declares are the fields of the record class, in their
order. -/
theorem declares_distinct {registry : Registry} {schema : Schema}
    (coherent : schema.Coherent registry) (className : String) (isPure : Bool) :
    List.Forall₂ (FieldSchema.Declares registry) schema.distinct
      (RecordType.ofSchema registry className schema isPure).fields := by
  have none : ∀ name, ([] : List String).contains name
      = ([] : List FieldDescriptor).any fun field => field.name == name := fun _ => rfl
  rcases exists_declared_firstOfName coherent.resolved none with ⟨added, fold, declares⟩
  rw [List.nil_append] at fold
  simp only [RecordType.ofSchema, fold]
  exact declares

end Schema

end TypedSheets
