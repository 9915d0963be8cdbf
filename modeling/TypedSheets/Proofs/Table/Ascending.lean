import Mathlib.Data.List.Dedup
import Mathlib.Data.List.Sort
import Mathlib.Data.String.Basic
import TypedSheets.Table.Index

/-!
# Ascending indexes

An index that starts empty and changes by insertions and removals has ascending names, so
it is determined by what it holds under each name.
-/

namespace TypedSheets.Index

variable {α : Type}

/-- Whether the names of an index ascend. -/
def Ascending (index : Index α) : Prop :=
  index.entries.Pairwise fun first second => first.1 < second.1

theorem ascending_empty : (empty : Index α).Ascending :=
  List.Pairwise.nil

theorem fst_of_mem_insertEntry {name : String} {value : α} {entries : List (String × α)}
    {entry : String × α} (member : entry ∈ insertEntry name value entries) :
    entry.1 = name ∨ entry ∈ entries := by
  induction entries with
  | nil =>
      obtain rfl := List.mem_singleton.mp member
      exact .inl rfl
  | cons head entries ih =>
      rcases head with ⟨other, held⟩
      rw [insertEntry] at member
      split at member
      · rcases List.mem_cons.mp member with rfl | rest
        · exact .inl rfl
        · exact .inr (List.mem_cons_of_mem _ rest)
      · split at member
        · rcases List.mem_cons.mp member with rfl | rest
          · exact .inl rfl
          · exact .inr rest
        · rcases List.mem_cons.mp member with rfl | rest
          · exact .inr List.mem_cons_self
          · exact (ih rest).imp_right (List.mem_cons_of_mem _)

/-- Values of different names may be put in in any order. -/
theorem insertEntry_comm {first second : String} (different : first ≠ second) (one other : α)
    (entries : List (String × α)) :
    insertEntry first one (insertEntry second other entries)
      = insertEntry second other (insertEntry first one entries) := by
  induction entries with
  | nil =>
      rcases lt_or_gt_of_ne different with before | after
      · simp [insertEntry, before, before.not_gt, different, different.symm]
      · simp [insertEntry, after, after.not_gt, different, different.symm]
  | cons head entries ih =>
      rcases head with ⟨key, held⟩
      by_cases isFirst : key = first
      · subst isFirst
        by_cases before : second < key
        · simp [insertEntry, different, different.symm, before, before.not_gt]
        · simp [insertEntry, different, before]
      · by_cases isSecond : key = second
        · subst isSecond
          by_cases before : first < key
          · simp [insertEntry, isFirst, before, before.not_gt, different]
          · simp [insertEntry, isFirst, before]
        · by_cases beforeFirst : first < key
          · by_cases beforeSecond : second < key
            · rcases lt_or_gt_of_ne different with before | after
              · simp [insertEntry, isFirst, isSecond, beforeFirst, beforeSecond, before,
                  before.not_gt, different, different.symm]
              · simp [insertEntry, isFirst, isSecond, beforeFirst, beforeSecond, after,
                  after.not_gt, different, different.symm]
            · have notBefore : ¬second < first := fun before => beforeSecond (before.trans beforeFirst)
              simp [insertEntry, isFirst, isSecond, beforeFirst, beforeSecond, notBefore, different]
          · by_cases beforeSecond : second < key
            · have notBefore : ¬first < second := fun before => beforeFirst (before.trans beforeSecond)
              simp [insertEntry, isFirst, isSecond, beforeFirst, beforeSecond, notBefore,
                different.symm]
            · simp [insertEntry, isFirst, isSecond, beforeFirst, beforeSecond, ih]

theorem insert_comm {first second : String} (different : first ≠ second) (index : Index α)
    (one other : α) :
    (index.insert second other).insert first one = (index.insert first one).insert second other :=
  congrArg Index.mk (insertEntry_comm different one other index.entries)

theorem Ascending.insert {index : Index α} (ascending : index.Ascending) (name : String)
    (value : α) : (index.insert name value).Ascending := by
  rcases index with ⟨entries⟩
  change (insertEntry name value entries).Pairwise _
  induction entries with
  | nil => exact List.pairwise_singleton _ _
  | cons head entries ih =>
      rcases head with ⟨other, held⟩
      rcases List.pairwise_cons.mp ascending with ⟨least, rest⟩
      rw [insertEntry]
      split
      · next same => exact List.pairwise_cons.mpr ⟨same ▸ least, rest⟩
      · next different =>
          split
          · next before =>
              refine List.pairwise_cons.mpr ⟨?_, ascending⟩
              intro entry member
              rcases List.mem_cons.mp member with rfl | later
              · exact before
              · exact lt_trans before (least entry later)
          · next notBefore =>
              have after : other < name := lt_of_le_of_ne (not_lt.mp notBefore) different
              refine List.pairwise_cons.mpr ⟨?_, ih rest⟩
              intro entry member
              rcases fst_of_mem_insertEntry member with named | later
              · rw [named]
                exact after
              · exact least entry later

theorem Ascending.erase {index : Index α} (ascending : index.Ascending) (name : String) :
    (index.erase name).Ascending :=
  List.Pairwise.filter _ ascending

/-- What a name holds after a name was taken out. -/
@[simp] theorem get?_erase (index : Index α) (name other : String) :
    (index.erase name).get? other = if other = name then none else index.get? other := by
  rcases index with ⟨entries⟩
  simp only [erase, get?]
  induction entries with
  | nil => simp
  | cons entry entries ih =>
      rcases entry with ⟨key, held⟩
      by_cases here : key = name
      · subst here
        rw [List.filter_cons_of_neg (by simp), ih, List.lookup_cons]
        by_cases same : other = key
        · simp [same]
        · simp [same, beq_eq_false_iff_ne.mpr same]
      · rw [List.filter_cons_of_pos (by simp [here]), List.lookup_cons, List.lookup_cons, ih]
        by_cases same : other = key
        · simp [same, here]
        · simp [beq_eq_false_iff_ne.mpr same]

/-- Taking out a name that holds nothing changes nothing. -/
theorem erase_of_get?_eq_none {index : Index α} {name : String} (missing : index.get? name = none) :
    index.erase name = index := by
  rcases index with ⟨entries⟩
  rw [erase, Index.mk.injEq, List.filter_eq_self]
  intro entry member
  have other : name ≠ entry.1 := bne_iff_ne.mp (List.lookup_eq_none_iff.mp missing entry member)
  exact bne_iff_ne.mpr other.symm

/-- The entries of an ascending index are what it holds. -/
theorem Ascending.mem_entries_iff {index : Index α} (ascending : index.Ascending) {name : String}
    {value : α} : (name, value) ∈ index.entries ↔ index.get? name = some value := by
  rcases index with ⟨entries⟩
  induction entries with
  | nil => simp [get?]
  | cons entry entries ih =>
      rcases entry with ⟨key, held⟩
      rcases List.pairwise_cons.mp ascending with ⟨least, rest⟩
      have others := ih rest
      simp only [get?, List.mem_cons, List.lookup_cons] at others ⊢
      by_cases same : name = key
      · subst same
        have first : (name, value) ∉ entries := fun later => lt_irrefl name (least (name, value) later)
        simp [first, eq_comm]
      · simp [same, beq_eq_false_iff_ne.mpr same, others]

/-- Ascending indexes that hold the same under each name are equal. -/
theorem Ascending.ext {left right : Index α} (ascendingLeft : left.Ascending)
    (ascendingRight : right.Ascending) (same : ∀ name, left.get? name = right.get? name) :
    left = right := by
  have irreflexive : Std.Irrefl fun first second : String × α => first.1 < second.1 :=
    ⟨fun entry => lt_irrefl entry.1⟩
  have antisymmetric : Std.Antisymm fun first second : String × α => first.1 < second.1 :=
    ⟨fun first second before after => absurd after (lt_asymm before)⟩
  have entries : left.entries = right.entries := by
    apply ascendingLeft.eq_of_mem_iff ascendingRight
    rintro ⟨name, value⟩
    rw [ascendingLeft.mem_entries_iff, ascendingRight.mem_entries_iff, same]
  rcases left with ⟨lefts⟩
  rcases right with ⟨rights⟩
  exact congrArg Index.mk entries

/-! ## Lists of values under their names -/

variable {key : α → String} {values : List α}

/-- Values that an index holds are under their names when they were put into another one. -/
theorem get?_foldl_insert {target : Index α}
    (stored : ∀ value ∈ values, target.get? (key value) = some value) (start : Index α)
    (name : String) :
    (values.foldl (fun index value => index.insert (key value) value) start).get? name
      = if ∃ value ∈ values, key value = name then target.get? name else start.get? name := by
  induction values generalizing start with
  | nil => simp
  | cons value values ih =>
      rcases List.forall_mem_cons.mp stored with ⟨first, others⟩
      rw [List.foldl_cons, ih others, get?_insert]
      by_cases later : ∃ value ∈ values, key value = name
      · rw [if_pos later, if_pos]
        rcases later with ⟨other, member, named⟩
        exact ⟨other, List.mem_cons_of_mem _ member, named⟩
      · rw [if_neg later]
        by_cases here : name = key value
        · rw [if_pos here, if_pos ⟨value, List.mem_cons_self, here.symm⟩, here, first]
        · rw [if_neg here, if_neg]
          rintro ⟨other, member, named⟩
          rcases List.mem_cons.mp member with rfl | rest
          · exact here named.symm
          · exact later ⟨other, rest, named⟩

theorem Ascending.foldl_insert {start : Index α} (ascending : start.Ascending)
    (key : α → String) (values : List α) :
    (values.foldl (fun index value => index.insert (key value) value) start).Ascending := by
  induction values generalizing start with
  | nil => exact ascending
  | cons value values ih => exact ih (ascending.insert _ _)

theorem Ascending.nodup_names {index : Index α} (ascending : index.Ascending) :
    index.names.Nodup :=
  (List.pairwise_map.mpr ascending).imp ne_of_lt

theorem mem_names_iff {index : Index α} {name : String} :
    name ∈ index.names ↔ index.get? name ≠ none := by
  constructor
  · intro member missing
    rcases List.mem_map.mp member with ⟨entry, listed, rfl⟩
    have differs := List.lookup_eq_none_iff.mp missing entry listed
    simp at differs
  · intro found
    by_contra absent
    apply found
    rw [get?, List.lookup_eq_none_iff]
    intro entry listed
    exact bne_iff_ne.mpr fun same => absent (List.mem_map.mpr ⟨entry, listed, same.symm⟩)

theorem mem_names_foldl_insert {start : Index α} {name : String} :
    name ∈ (values.foldl (fun index value => index.insert (key value) value) start).names
      ↔ name ∈ values.map key ∨ name ∈ start.names := by
  induction values generalizing start with
  | nil => simp
  | cons value values ih =>
      have inserted : name ∈ (start.insert (key value) value).names
          ↔ name = key value ∨ name ∈ start.names := by
        rw [mem_names_iff, mem_names_iff, get?_insert]
        by_cases same : name = key value <;> simp [same]
      rw [List.foldl_cons, ih, inserted, List.map_cons, List.mem_cons, or_left_comm, or_assoc]

/-- An index holds the values of a list under as many names as these have. -/
theorem length_values_foldl_insert (key : α → String) (values : List α) :
    (values.foldl (fun index value => index.insert (key value) value) empty).values.length
      = (values.map key).dedup.length := by
  have distinct := (ascending_empty.foldl_insert key values).nodup_names
  have same : (values.foldl (fun index value => index.insert (key value) value) empty).names.Perm
      (values.map key).dedup := by
    rw [List.perm_ext_iff_of_nodup distinct (List.nodup_dedup _)]
    intro name
    rw [mem_names_foldl_insert, List.mem_dedup]
    simp [empty, names]
  have length := same.length_eq
  rw [names, List.length_map] at length
  rw [Index.values, List.length_map, length]

end TypedSheets.Index
