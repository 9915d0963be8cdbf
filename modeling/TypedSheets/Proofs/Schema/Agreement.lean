import TypedSheets.Schema

/-!
# Columns of one field agree

A derived schema has a column for every column of the sheet. The valid ones have types,
and those of one name make up one field: either all of them are items of it or none is,
and their types are the same. So the record class of the schema has the field of every
valid column in the type that the column declares, and no other fields.
-/

namespace TypedSheets

namespace FieldSchema

/-- The type of the field that a column belongs to. -/
def fieldType? (registry : Registry) (column : FieldSchema) : Option ValueType :=
  (registry.resolve? column.declaredType).map (ValueType.ofColumn column.isArrayElement)

/-- Whether two columns declare the same field, up to its name. -/
structure Agrees (registry : Registry) (column other : FieldSchema) : Prop where
  kind : column.isArrayElement = other.isArrayElement
  type : registry.resolve? column.declaredType = registry.resolve? other.declaredType

theorem Agrees.refl (registry : Registry) (column : FieldSchema) : column.Agrees registry column :=
  ⟨rfl, rfl⟩

theorem Agrees.symm {registry : Registry} {column other : FieldSchema}
    (agrees : column.Agrees registry other) : other.Agrees registry column :=
  ⟨agrees.kind.symm, agrees.type.symm⟩

theorem Agrees.fieldType?_eq {registry : Registry} {column other : FieldSchema}
    (agrees : column.Agrees registry other) :
    column.fieldType? registry = other.fieldType? registry := by
  simp only [fieldType?]
  rw [agrees.kind, agrees.type]

/-- Compatible columns agree where their types are known. -/
theorem agrees_of_isCompatibleWith {registry : Registry} {column other : FieldSchema}
    {type otherType : ValueType} (resolved : registry.resolve? column.declaredType = some type)
    (alsoResolved : registry.resolve? other.declaredType = some otherType)
    (compatible : column.isCompatibleWith registry other = true) :
    column.Agrees registry other := by
  simp only [isCompatibleWith] at compatible
  split at compatible
  · simp at compatible
  · next kind =>
      rw [resolved, alsoResolved] at compatible
      refine ⟨by simpa using kind, ?_⟩
      rw [resolved, alsoResolved, eq_of_beq compatible]

end FieldSchema

namespace Schema

/-- What a column of a view declares. -/
def declared (registry : Registry) (view : View) (column : Nat) : FieldSchema :=
  FieldSchema.ofColumn registry (view.cell nameRow column) (view.cell typeRow column) column

/-- A derived schema is made column by column. -/
theorem derive_induction {registry : Registry} {view : View} {property : Schema → Prop}
    (start : property [])
    (step : ∀ schema : Schema, property schema →
      property (schema ++ [reconcile registry schema (declared registry view schema.length)])) :
    property (derive registry view) := by
  simp only [derive]
  split
  · exact start
  · -- The length is carried along: the column added next is the one at the length so far.
    generalize view.columnCount = count
    have columns : ∀ made, (List.range count).foldl
        (fun schema column =>
          schema ++ [reconcile registry schema (declared registry view column)]) [] = made →
        made.length = count ∧ property made := by
      induction count with
      | zero =>
          rintro _ rfl
          exact ⟨rfl, start⟩
      | succ count ih =>
          rintro _ rfl
          rcases ih _ rfl with ⟨sized, holds⟩
          rw [List.range_succ, List.foldl_append, List.foldl_cons, List.foldl_nil]
          constructor
          · simpa using sized
          · have extended := step _ holds
            rw [sized] at extended
            exact extended
    exact (columns _ rfl).2

/-- A column that stays valid does not clash with an earlier valid one of its name. -/
theorem reconcile_valid {registry : Registry} {earlier : Schema} {column : FieldSchema}
    (valid : (reconcile registry earlier column).isValid = true) :
    reconcile registry earlier column = column
      ∧ ∀ other ∈ earlier.valid, other.baseName = column.baseName →
        other.isCompatibleWith registry column = true := by
  simp only [reconcile] at valid ⊢
  split at valid
  · simp at valid
  · next settled =>
      refine ⟨if_neg settled, ?_⟩
      intro other member named
      rcases List.mem_filter.mp member with ⟨inside, counts⟩
      rw [Bool.and_eq_true, not_and, Bool.not_eq_true, List.any_eq_false] at settled
      have clear := settled valid other inside
      simpa [counts, named] using clear

/-- Whether the valid columns have types and those of one name agree. -/
structure Coherent (registry : Registry) (schema : Schema) : Prop where
  resolved : ∀ column ∈ schema.valid, ∃ type, registry.resolve? column.declaredType = some type
  agree : ∀ column ∈ schema.valid, ∀ other ∈ schema.valid, column.baseName = other.baseName →
    column.Agrees registry other

theorem valid_append (schema : Schema) (column : FieldSchema) :
    valid (schema ++ [column]) = schema.valid ++ if column.isValid then [column] else [] := by
  simp only [valid]
  rw [List.filter_append]
  cases counts : column.isValid <;> simp [counts]

/-- The column of a name is a valid one. -/
theorem mem_valid_of_find? {schema : Schema} {name : String} {column : FieldSchema}
    (found : schema.find? name = some column) : column ∈ schema.valid := by
  have counts := List.find?_some found
  rw [Bool.and_eq_true] at counts
  exact List.mem_filter.mpr ⟨List.mem_of_find?_eq_some found, counts.1⟩

/-- A column that is reconciled with the earlier ones keeps a schema coherent. -/
theorem Coherent.append {registry : Registry} {schema : Schema} (coherent : Coherent registry schema)
    {column : FieldSchema}
    (resolved : column.isValid = true → ∃ type, registry.resolve? column.declaredType = some type) :
    Coherent registry (schema ++ [reconcile registry schema column]) := by
  cases counts : (reconcile registry schema column).isValid with
  | false =>
      have same : valid (schema ++ [reconcile registry schema column]) = schema.valid := by
        simp [valid_append, counts]
      constructor
      · rw [same]
        exact coherent.resolved
      · rw [same]
        exact coherent.agree
  | true =>
      rcases reconcile_valid counts with ⟨unchanged, compatible⟩
      rw [unchanged] at counts ⊢
      rcases resolved counts with ⟨type, known⟩
      have members : ∀ other, other ∈ valid (schema ++ [column]) →
          other ∈ schema.valid ∨ other = column := by
        intro other member
        simpa [valid_append, counts] using member
      have agreeing : ∀ other ∈ schema.valid, other.baseName = column.baseName →
          other.Agrees registry column := by
        intro other member named
        rcases coherent.resolved other member with ⟨otherType, otherKnown⟩
        exact FieldSchema.agrees_of_isCompatibleWith otherKnown known (compatible other member named)
      constructor
      · intro other member
        rcases members other member with earlier | rfl
        · exact coherent.resolved other earlier
        · exact ⟨type, known⟩
      · intro first firstMember second secondMember named
        rcases members first firstMember with earlier | rfl
        · rcases members second secondMember with alsoEarlier | rfl
          · exact coherent.agree first earlier second alsoEarlier named
          · exact agreeing first earlier named
        · rcases members second secondMember with alsoEarlier | rfl
          · exact (agreeing second alsoEarlier named.symm).symm
          · exact FieldSchema.Agrees.refl registry _

/-- The columns of a sheet are coherent. -/
theorem coherent_derive (registry : Registry) (view : View) :
    Coherent registry (derive registry view) := by
  apply derive_induction
  · constructor
    · intro column member
      simp [valid] at member
    · intro column member
      simp [valid] at member
  · intro schema coherent
    apply coherent.append
    intro counts
    simp only [declared, FieldSchema.ofColumn, Bool.and_eq_true] at counts
    exact Option.isSome_iff_exists.mp counts.2

/-- Whether every column stands where it is in the schema. -/
def Placed (schema : Schema) : Prop :=
  ∀ (position : Nat) (column : FieldSchema), schema[position]? = some column →
    column.column = some position

@[simp] theorem column_reconcile (registry : Registry) (earlier : Schema) (column : FieldSchema) :
    (reconcile registry earlier column).column = column.column := by
  simp only [reconcile]
  split
  · rfl
  · rfl

/-- Every column of a derived schema stands where the sheet has it. -/
theorem placed_derive (registry : Registry) (view : View) : Placed (derive registry view) := by
  apply derive_induction
  · intro position column present
    simp at present
  · intro schema placed position column present
    rcases Nat.lt_trichotomy position schema.length with before | here | after
    · rw [List.getElem?_append_left before] at present
      exact placed position column present
    · subst here
      rw [List.getElem?_concat_length] at present
      obtain rfl := Option.some.inj present
      rw [column_reconcile]
      rfl
    · rw [List.getElem?_eq_none (by simp; omega)] at present
      simp at present

end Schema

namespace RecordType

open Schema

/-- The fields that columns add come from columns. -/
theorem mem_foldl_addColumn {registry : Registry} {columns : Schema}
    {fields : List FieldDescriptor} {descriptor : FieldDescriptor}
    (member : descriptor ∈ columns.foldl (addColumn registry) fields) :
    descriptor ∈ fields
      ∨ ∃ column ∈ columns, column.baseName = descriptor.name
        ∧ column.fieldType? registry = some descriptor.type := by
  induction columns generalizing fields with
  | nil => exact .inl member
  | cons column columns ih =>
      rcases ih member with added | ⟨other, inside, made⟩
      · simp only [addColumn] at added
        split at added
        · exact .inl added
        · split at added
          · next type resolved =>
              rcases List.mem_append.mp added with before | new
              · exact .inl before
              · obtain rfl := List.mem_singleton.mp new
                exact .inr ⟨column, List.mem_cons_self, rfl, by simp [FieldSchema.fieldType?, resolved]⟩
          · exact .inl added
      · exact .inr ⟨other, List.mem_cons_of_mem _ inside, made⟩

theorem mem_foldl_addColumn_of_mem {registry : Registry} (columns : Schema)
    {fields : List FieldDescriptor} {descriptor : FieldDescriptor} (member : descriptor ∈ fields) :
    descriptor ∈ columns.foldl (addColumn registry) fields := by
  induction columns generalizing fields with
  | nil => exact member
  | cons column columns ih =>
      apply ih
      simp only [addColumn]
      split
      · exact member
      · split
        · exact List.mem_append_left _ member
        · exact member

/-- Every column with a type has a field. -/
theorem exists_mem_foldl_addColumn {registry : Registry} {columns : Schema} {column : FieldSchema}
    (member : column ∈ columns) {type : ValueType}
    (resolved : registry.resolve? column.declaredType = some type) (fields : List FieldDescriptor) :
    ∃ descriptor ∈ columns.foldl (addColumn registry) fields, descriptor.name = column.baseName := by
  induction columns generalizing fields with
  | nil => simp at member
  | cons other columns ih =>
      rcases List.mem_cons.mp member with rfl | later
      · have added : ∃ descriptor ∈ addColumn registry fields column,
            descriptor.name = column.baseName := by
          simp only [addColumn]
          split
          · next present =>
              rcases List.any_eq_true.mp present with ⟨descriptor, inside, named⟩
              exact ⟨descriptor, inside, eq_of_beq named⟩
          · simp [resolved]
        rcases added with ⟨descriptor, inside, named⟩
        exact ⟨descriptor, mem_foldl_addColumn_of_mem columns inside, named⟩
      · exact ih later _

/-- The record class of a coherent schema has the field of every valid column in its
type. -/
theorem field?_ofSchema {registry : Registry} {schema : Schema} (coherent : Coherent registry schema)
    (name : String) (isPure : Bool) {column : FieldSchema} (member : column ∈ schema.valid) :
    ∃ descriptor, (ofSchema registry name schema isPure).field? column.baseName = some descriptor
      ∧ column.fieldType? registry = some descriptor.type := by
  rcases coherent.resolved column member with ⟨type, resolved⟩
  rcases exists_mem_foldl_addColumn member resolved [] with ⟨made, inside, named⟩
  have declared : ((ofSchema registry name schema isPure).field? column.baseName).isSome = true :=
    List.find?_isSome.mpr ⟨made, inside, by simp [named]⟩
  rcases Option.isSome_iff_exists.mp declared with ⟨descriptor, found⟩
  refine ⟨descriptor, found, ?_⟩
  have equal := name_of_field? found
  rcases mem_foldl_addColumn (List.mem_of_find?_eq_some found) with absent | ⟨other, among, same, typed⟩
  · simp at absent
  · rw [← typed]
    exact (coherent.agree column member other among (equal.symm.trans same.symm)).fieldType?_eq

/-- Every field of the record class of a schema is that of a valid column. -/
theorem exists_column_of_field? {registry : Registry} {schema : Schema} {className name : String}
    {isPure : Bool} {descriptor : FieldDescriptor}
    (found : (ofSchema registry className schema isPure).field? name = some descriptor) :
    ∃ column ∈ schema.valid, column.baseName = name
      ∧ column.fieldType? registry = some descriptor.type := by
  have equal := name_of_field? found
  rcases mem_foldl_addColumn (List.mem_of_find?_eq_some found) with absent | ⟨column, among, same, typed⟩
  · simp at absent
  · exact ⟨column, among, same.trans equal, typed⟩

end RecordType

end TypedSheets
