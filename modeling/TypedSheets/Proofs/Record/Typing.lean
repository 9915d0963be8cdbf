import Mathlib.Data.List.Forall2
import TypedSheets.Proofs.Record.Growth

/-!
# Records of a class

A record of a class has the fields of the class in their order. It is well-typed when
every value it can be read for is accepted by the type that the class declares for the
field. A change that keeps to the declared type of its field keeps a record well-typed,
so a run of changes only has to be looked at one step at a time.
-/

namespace TypedSheets

namespace ValueType

/-- A type accepts a list of values when it accepts each of them. -/
theorem acceptsAll_iff (type : ValueType) (items : List Value) :
    type.acceptsAll items = true ↔ ∀ item ∈ items, type.accepts item = true := by
  induction items with
  | nil => simp [acceptsAll]
  | cons item items ih => simp [acceptsAll, ih]

/-- What an array type accepts are `null` and lists of what its element type accepts. -/
theorem accepts_array_iff (element : ValueType) (items : List Value) :
    (ValueType.array element).accepts (.array items) = true
      ↔ ∀ item ∈ items, element.accepts item = true := by
  rw [← acceptsAll_iff]
  simp [accepts]

theorem exists_array_of_accepts {type : ValueType} {items : List Value}
    (accepted : type.accepts (.array items) = true) : ∃ element, type = .array element := by
  cases type with
  | array element => exact ⟨element, rfl⟩
  | _ => simp [accepts] at accepted

theorem exists_composite_of_accepts {type : ValueType} {components : List Numeral.Double}
    (accepted : type.accepts (.vector components) = true) : ∃ kind, type = .composite kind := by
  cases type with
  | composite kind => exact ⟨kind, rfl⟩
  | _ => simp [accepts] at accepted

theorem eq_record_of_accepts {type : ValueType} {record : Record}
    (accepted : type.accepts (.record record) = true) : type = .record record.typeName := by
  rcases record with ⟨typeName, _, _, _⟩
  simpa [accepts] using accepted

/-- A value of an array type counts as items of the element type. -/
theorem accepts_of_mem_asItems {element : ValueType} {held item : Value}
    (accepted : (ValueType.array element).accepts held = true) (member : item ∈ held.asItems) :
    element.accepts item = true := by
  cases held with
  | array items => exact (accepts_array_iff element items).mp accepted item member
  | null => simp [Value.asItems] at member
  | record inner => cases eq_record_of_accepts accepted
  | _ => simp [accepts, isInteger, integerRange?] at accepted

/-- A list stays within its array type when it grows by an item of the element type. -/
theorem accepts_grown {element : ValueType} {held item : Value}
    (accepted : (ValueType.array element).accepts held = true)
    (fits : element.accepts item = true) :
    (ValueType.array element).accepts (Record.grown item held) = true := by
  rw [Value.grown_eq, accepts_array_iff]
  intro other member
  rcases List.mem_append.mp member with before | added
  · exact accepts_of_mem_asItems accepted before
  · rw [List.mem_singleton.mp added]
    exact fits

end ValueType

namespace RecordType

/-- A new record reads as the value that each declared field starts with. -/
theorem get?_instantiate (type : RecordType) (name : String) :
    type.instantiate.get? name = (type.field? name).map fun field => field.type.zero := by
  rcases type with ⟨className, isPure, fields⟩
  simp only [instantiate, Record.get?, field?]
  induction fields with
  | nil => rfl
  | cons field fields ih =>
      by_cases here : field.name = name
      · subst here
        simp
      · have differs : (name == field.name) = false := beq_eq_false_iff_ne.mpr (Ne.symm here)
        simp [List.lookup_cons, differs, here, ih]

end RecordType

namespace Record

/-- Whether a record has the fields of a class in their order. -/
def HasFieldsOf (record : Record) (type : RecordType) : Prop :=
  record.fields.map Prod.fst = type.fields.map FieldDescriptor.name

theorem hasFieldsOf_instantiate (type : RecordType) : type.instantiate.HasFieldsOf type := by
  simp [HasFieldsOf, RecordType.instantiate]

theorem HasFieldsOf.update {record : Record} {type : RecordType} (shaped : record.HasFieldsOf type)
    (name : String) (change : Value → Value) : (record.update name change).HasFieldsOf type := by
  simp only [HasFieldsOf, Record.update]
  rw [map_fst_updateFields]
  exact shaped

/-- A record of a class can be read for every field of the class. -/
theorem HasFieldsOf.exists_get? {record : Record} {type : RecordType} {name : String}
    (shaped : record.HasFieldsOf type) (declared : (type.field? name).isSome = true) :
    ∃ held, record.get? name = some held := by
  rcases List.find?_isSome.mp declared with ⟨field, member, named⟩
  have listed : name ∈ record.fields.map Prod.fst := by
    rw [shaped, ← eq_of_beq named]
    exact List.mem_map_of_mem member
  rcases List.mem_map.mp listed with ⟨entry, inside, equal⟩
  exact Option.isSome_iff_exists.mp (List.lookup_isSome_iff.mpr ⟨entry, inside, by simp [equal]⟩)

/-- A record of a class whose values are of the declared types. -/
structure WellTyped (record : Record) (type : RecordType) : Prop where
  hasFields : record.HasFieldsOf type
  accepted : ∀ name value, record.get? name = some value →
    ∃ field, type.field? name = some field ∧ field.type.accepts value = true

/-- Fields that agree with those of a class one by one make a well-typed record. -/
theorem WellTyped.of_forall₂ {record : Record} {type : RecordType}
    (agree : List.Forall₂ (fun entry field => entry.1 = field.name
      ∧ field.type.accepts entry.2 = true) record.fields type.fields) :
    record.WellTyped type := by
  rcases record with ⟨typeName, assetName, row, entries⟩
  rcases type with ⟨className, isPure, fields⟩
  simp only at agree
  induction agree with
  | nil => exact ⟨rfl, fun name value reads => by simp [get?] at reads⟩
  | @cons entry field entries fields first rest ih =>
      rcases entry with ⟨entryName, held⟩
      obtain ⟨rfl, accepted⟩ := first
      refine ⟨congrArg (field.name :: ·) ih.hasFields, ?_⟩
      intro name value reads
      by_cases here : name = field.name
      · subst here
        obtain rfl : held = value := by simpa [get?] using reads
        exact ⟨field, by simp [RecordType.field?], accepted⟩
      · have differs : (name == field.name) = false := beq_eq_false_iff_ne.mpr here
        have later : get? ⟨typeName, assetName, row, entries⟩ name = some value := by
          simpa [get?, List.lookup_cons, differs] using reads
        rcases ih.accepted name value later with ⟨other, found, fits⟩
        exact ⟨other, by simpa [RecordType.field?, Ne.symm here] using found, fits⟩

/-- The values that fields start with are of their types. -/
theorem wellTyped_instantiate (type : RecordType) : type.instantiate.WellTyped type where
  hasFields := hasFieldsOf_instantiate type
  accepted := by
    intro name value reads
    rw [RecordType.get?_instantiate] at reads
    rcases Option.map_eq_some_iff.mp reads with ⟨field, found, rfl⟩
    exact ⟨field, found, ValueType.accepts_zero field.type⟩

/-- A change that keeps to the type of its field keeps a record well-typed. -/
theorem WellTyped.update {record : Record} {type : RecordType} (typed : record.WellTyped type)
    {name : String} {change : Value → Value}
    (keeps : ∀ field held, type.field? name = some field → field.type.accepts held = true →
      field.type.accepts (change held) = true) :
    (record.update name change).WellTyped type where
  hasFields := typed.hasFields.update name change
  accepted := by
    intro other value reads
    by_cases same : other = name
    · subst same
      rw [get?_update_self] at reads
      rcases Option.map_eq_some_iff.mp reads with ⟨held, read, rfl⟩
      rcases typed.accepted other held read with ⟨field, found, accepted⟩
      exact ⟨field, found, keeps field held found accepted⟩
    · rw [get?_update_of_ne record same] at reads
      exact typed.accepted other value reads

end Record

end TypedSheets
