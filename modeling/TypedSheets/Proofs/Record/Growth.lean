import Mathlib.Data.List.Forall2
import TypedSheets.Value.Basic

/-!
# Fields that are read, written and grown

Every change of a record goes through one field of a name. This module says what a
change leaves readable, when two changes of one field amount to the same, and what a
field holds after it has grown by several items: what it held before counts as a list,
and the items follow in order. All other fields are as they were.
-/

namespace TypedSheets

namespace Value

/-- The items a value counts as when it grows: `null` counts as no item and a value that
is not a list as a single one. -/
def asItems : Value → List Value
  | .array items => items
  | .null => []
  | single => [single]

/-- A value grown by items; without items it stays as it is. -/
def extendedBy (held : Value) : List Value → Value
  | [] => held
  | item :: items => .array (held.asItems ++ item :: items)

theorem grown_eq (item held : Value) :
    Record.grown item held = .array (held.asItems ++ [item]) := by
  cases held <;> rfl

theorem extendedBy_grown (item held : Value) (items : List Value) :
    (Record.grown item held).extendedBy items = held.extendedBy (item :: items) := by
  cases items with
  | nil => simp [extendedBy, grown_eq]
  | cons next items => simp [extendedBy, grown_eq, asItems]

/-- A field without a value becomes the list of what was appended to it. -/
@[simp] theorem extendedBy_null (item : Value) (items : List Value) :
    Value.null.extendedBy (item :: items) = .array (item :: items) := rfl

end Value

namespace Record

theorem updateFields_updateFields (name : String) (first second : Value → Value)
    (fields : List (String × Value)) :
    updateFields name second (updateFields name first fields)
      = updateFields name (fun held => second (first held)) fields := by
  induction fields with
  | nil => rfl
  | cons field fields ih =>
      rcases field with ⟨other, value⟩
      by_cases here : other = name <;> simp [updateFields, here, ih]

theorem updateFields_id (name : String) (fields : List (String × Value)) :
    updateFields name (fun held => held) fields = fields := by
  induction fields with
  | nil => rfl
  | cons field fields ih =>
      rcases field with ⟨other, value⟩
      by_cases here : other = name <;> simp [updateFields, here, ih]

theorem updateFields_congr {name : String} {first second : Value → Value}
    {fields : List (String × Value)}
    (same : ∀ held, fields.lookup name = some held → first held = second held) :
    updateFields name first fields = updateFields name second fields := by
  induction fields with
  | nil => rfl
  | cons field fields ih =>
      rcases field with ⟨other, value⟩
      by_cases here : other = name
      · subst here
        simp [updateFields, same value (by simp)]
      · have differs : (name == other) = false := beq_eq_false_iff_ne.mpr (Ne.symm here)
        have rest := ih fun held found => same held (by simpa [List.lookup_cons, differs] using found)
        simp [updateFields, here, rest]

/-- Two changes of one field, done one after the other, are one change. -/
theorem update_update (record : Record) (name : String) (first second : Value → Value) :
    (record.update name first).update name second
      = record.update name fun held => second (first held) := by
  simp only [update, updateFields_updateFields]

/-- Only what a change does to the value held matters. -/
theorem update_congr {record : Record} {name : String} {first second : Value → Value}
    (same : ∀ held, record.get? name = some held → first held = second held) :
    record.update name first = record.update name second := by
  simp only [update, updateFields_congr same]

@[simp] theorem update_id (record : Record) (name : String) :
    (record.update name fun held => held) = record := by
  cases record
  simp only [update, updateFields_id]

/-- A record without the field does not change. -/
theorem update_of_get?_none {record : Record} {name : String}
    (absent : record.get? name = none) (change : Value → Value) :
    record.update name change = record := by
  have same : record.update name change = record.update name fun held => held :=
    update_congr fun held reads => by simp [absent] at reads
  rw [same, update_id]

/-- A record has the fields that it can be read for. -/
theorem has_eq_isSome_get? (record : Record) (name : String) :
    record.has name = (record.get? name).isSome := by
  rw [Bool.eq_iff_iff, get?, List.lookup_isSome_iff, has, List.any_eq_true]
  apply exists_congr
  intro field
  rw [and_congr_right_iff]
  intro member
  rw [beq_iff_eq, beq_iff_eq, eq_comm]

theorem get?_update_self (record : Record) (name : String) (change : Value → Value) :
    (record.update name change).get? name = (record.get? name).map change := by
  simp [get?_update]

theorem get?_update_of_ne (record : Record) {name other : String} (different : other ≠ name)
    (change : Value → Value) : (record.update name change).get? other = record.get? other := by
  simp [get?_update, different]

/-! ## Records that differ in one field -/

/-- Whether two records are the same up to what a field holds. -/
structure SameBut (field : String) (old new : Record) : Prop where
  typeName : new.typeName = old.typeName
  assetName : new.assetName = old.assetName
  row : new.row = old.row
  /-- The fields keep their names and their order, and the other ones their values. -/
  fields : List.Forall₂ (fun held changed => changed.1 = held.1
    ∧ (held.1 ≠ field → changed.2 = held.2)) old.fields new.fields

theorem sameBut_update (field : String) (change : Value → Value) (record : Record) :
    record.SameBut field (record.update field change) := by
  rcases record with ⟨typeName, assetName, row, fields⟩
  constructor
  case fields =>
    simp only [update]
    induction fields with
    | nil => exact .nil
    | cons held fields ih =>
        rcases held with ⟨name, value⟩
        rw [updateFields]
        split
        · next here =>
            refine .cons ⟨rfl, fun different => absurd here different⟩ ?_
            rw [List.forall₂_same]
            intro held _
            exact ⟨rfl, fun _ => rfl⟩
        · exact .cons ⟨rfl, fun _ => rfl⟩ ih
  all_goals rfl

/-- Every other field reads the same. -/
theorem SameBut.get?_eq {field name : String} {old new : Record} (same : old.SameBut field new)
    (different : name ≠ field) : new.get? name = old.get? name := by
  have fields := same.fields
  rw [get?, get?]
  generalize old.fields = olds, new.fields = news at fields ⊢
  induction fields with
  | nil => rfl
  | @cons held changed _ _ matching _ ih =>
      rcases held with ⟨key, value⟩
      rcases changed with ⟨other, replaced⟩
      obtain rfl : other = key := matching.1
      rw [List.lookup_cons, List.lookup_cons, ih]
      by_cases here : name = other
      · subst here
        obtain rfl : replaced = value := matching.2 different
        rfl
      · simp only [beq_eq_false_iff_ne.mpr here]

/-- Whether a record is an older one with items appended to what a field held, and with nothing
else changed. -/
structure GrownBy (field : String) (items : List Value) (old new : Record) : Prop where
  same : old.SameBut field new
  grown : ∃ held, old.get? field = some held ∧ new.get? field = some (held.extendedBy items)
  /-- Without items nothing changes at all. -/
  still : items = [] → new = old

theorem grownBy_update {record : Record} {field : String} (items : List Value)
    (has : (record.get? field).isSome = true) :
    record.GrownBy field items (record.update field (·.extendedBy items)) := by
  constructor
  case same => exact sameBut_update field _ record
  case grown =>
    rcases Option.isSome_iff_exists.mp has with ⟨held, reads⟩
    exact ⟨held, reads, by rw [get?_update_self, reads, Option.map_some]⟩
  case still =>
    rintro rfl
    exact update_id record field

end Record

end TypedSheets
