import TypedSheets.Proofs.Join.Delivery

/-!
# What a join may change

A join changes the values of one field and nothing else: its list field, in the records of
its target. Whatever is read from another field of the table, such as the keys that a
finder compares, is the same after it.
-/

namespace TypedSheets

/-- Whether two tables are the same up to what a field of their records holds. -/
structure Table.SameBut (field : String) (old new : Table) : Prop where
  table : new = { old with records := new.records }
  records : List.Forall₂ (Record.SameBut field) old.records new.records

namespace Join

/-- A join changes the list field of its target only. -/
theorem run_sameBut (join : JoinSetting) (localType : RecordType) (records : List Record)
    (target : Table) :
    target.SameBut join.targetListField (run join localType records target).2 := by
  rcases run_table join localType records target with ⟨table, count⟩
  refine ⟨table, List.forall₂_iff_get.mpr ⟨count.symm, ?_⟩⟩
  intro index inside _
  have row := getElem?_run join localType records target index
  rw [List.getElem?_eq_getElem inside, List.getElem?_eq_getElem (count ▸ inside)] at row
  rw [List.get_eq_getElem, List.get_eq_getElem, Option.some.inj row]
  exact Record.sameBut_update _ _ _

end Join

/-! ## Tables with the same keys -/

/-- Whether two tables are the same up to what fields other than the keys hold. -/
structure Table.SameKeys (left right : Table) : Prop where
  table : right = { left with records := right.records }
  keys : List.Forall₂ (fun one other : Record => ∀ key ∈ left.keyFields,
    other.get? key = one.get? key) left.records right.records

namespace Table.SameKeys

variable {left middle right : Table}

theorem refl (table : Table) : table.SameKeys table :=
  ⟨rfl, List.forall₂_same.mpr fun _ _ _ _ => rfl⟩

theorem keyFields (same : left.SameKeys right) : right.keyFields = left.keyFields := by
  rw [same.table]

theorem trans (front : left.SameKeys middle) (back : middle.SameKeys right) :
    left.SameKeys right := by
  constructor
  case table =>
    rw [back.table, front.table]
  case keys =>
    have first := front.keys
    have second := back.keys
    rw [front.keyFields] at second
    rw [List.forall₂_iff_get] at first second ⊢
    refine ⟨first.1.trans second.1, fun index inside insideAlso key member => ?_⟩
    have between : index < middle.records.length := first.1 ▸ inside
    rw [second.2 index between insideAlso key member, first.2 index inside between key member]

/-- The keys of a table stay when a field changes that is none of them. -/
theorem of_sameBut {field : String} (same : left.SameBut field right)
    (separate : field ∉ left.keyFields) : left.SameKeys right := by
  constructor
  case table => exact same.table
  case keys =>
    refine same.records.imp fun one other changed key member => ?_
    exact changed.get?_eq fun here => separate (here ▸ member)

/-- A search by keys finds the same rows. -/
theorem byKeys_eq (same : left.SameKeys right) {searched : List String}
    (among : ∀ key ∈ searched, key ∈ left.keyFields) :
    Finder.byKeys searched right.records = Finder.byKeys searched left.records := by
  funext arguments
  have keys := same.keys
  simp only [Finder.byKeys]
  generalize left.records = rows, right.records = others at keys
  congr 1
  induction keys with
  | nil => rfl
  | cons agree _ ih =>
      rw [List.findIdx?_cons, List.findIdx?_cons, ih,
        Join.keysMatch_congr (fun key member => agree key (among key member))]

end Table.SameKeys

namespace Join

/-- The outcome of a join into a table depends on the keys of its rows alone, if the list field
is none of them. -/
theorem run_outcome_eq {join : JoinSetting} {left right : Table} (same : left.SameKeys right)
    (builtIn : left.HasBuiltInFinders) (separate : join.targetListField ∉ left.keyFields)
    (localType : RecordType) (records : List Record) :
    (run join localType records right).1 = (run join localType records left).1 := by
  have type : right.recordType = left.recordType := by rw [same.table]
  have name : right.name = left.name := by rw [same.table]
  have finders : right.finder? = left.finder? := by
    rw [same.table]
    rfl
  by_cases present : FieldsPresent join localType left.recordType
  · have presentAlso : FieldsPresent join localType right.recordType := by rwa [type]
    cases found : left.finder? join.targetFinder with
    | none =>
        have lacking : right.finder? join.targetFinder = none := by rwa [finders]
        have issues : noFinderIssue join right = noFinderIssue join left := by
          funext record
          rw [noFinderIssue, noFinderIssue, name]
        rw [run_of_no_finder records present found, run_of_no_finder records presentAlso lacking,
          issues]
    | some finder =>
        have foundAlso : right.finder? join.targetFinder = some finder := by rwa [finders]
        have frozen := frozen_of_builtIn builtIn separate found
        have inShape : (Table.builtInFinders left.strategy left.keyFields).get? join.targetFinder
            = some finder := by rwa [Table.finder?, builtIn] at found
        rcases exists_keys_of_builtIn inShape with ⟨searched, among, rfl⟩
        have belong : ∀ record, rowOf? join (Finder.byKeys searched) right.records record
            = rowOf? join (Finder.byKeys searched) left.records record := by
          intro record
          simp only [rowOf?, same.byKeys_eq among]
        rw [run_of_finder present found, run_of_finder presentAlso foundAlso,
          frozen.linkAll_unmatched, frozen.linkAll_unmatched, unmatched_congr belong]
        have issues : unmatchedIssue join right = unmatchedIssue join left := by
          rw [unmatchedIssue_eq, unmatchedIssue_eq, name]
        simp only [outcomeOf, shortfallIssue, issues, name]
  · have absentAlso : ¬FieldsPresent join localType right.recordType := by rwa [type]
    rw [run_of_missing_fields records present, run_of_missing_fields records absentAlso, type]

end Join

end TypedSheets
