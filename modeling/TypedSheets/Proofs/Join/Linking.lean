import Mathlib
import TypedSheets.Proofs.Record.Growth
import TypedSheets.Table.Join

/-!
# Linking records into rows

A join looks records up in a table that it changes on the way. Where no link can change
a lookup, the whole run is decided by the rows as they were: every row receives the
records that the finder sends to it there, and the rest is unmatched. The finders that
come with a table are of this kind as long as the list field is none of their keys.

Whatever the finder does, a run leaves the rows as they were exactly when no record is
sent to a row that has the list field: every other link makes a list longer, and no
link makes one shorter.
-/

namespace TypedSheets.Join

variable {join : JoinSetting} {finder : Finder}

/-! ## Records and their rows -/

/-- Whether a finder sends a record to a row of some rows: the row is what it finds for the
value in the key field of the record, which is not `null`. -/
def Finds (join : JoinSetting) (finder : Finder) (rows : List Record) (record : Record)
    (row : Nat) : Prop :=
  ∃ key, record.get? join.localKeyField = some key ∧ key ≠ .null ∧ finder rows [key] = some row

/-- Whether a finder sends a record to no row of some rows. -/
def Misses (join : JoinSetting) (finder : Finder) (rows : List Record) (record : Record) : Prop :=
  ∀ row, ¬Finds join finder rows record row

section Rows

variable {rows : List Record} {record : Record} {row : Nat}

theorem get?_of_keyOf (present : (keyOf join record).isNull = false) :
    record.get? join.localKeyField = some (keyOf join record) := by
  unfold keyOf at present ⊢
  cases reads : record.get? join.localKeyField with
  | none => simp [reads, Value.isNull] at present
  | some value => rfl

theorem rowOf?_eq_some_iff_keyOf :
    rowOf? join finder rows record = some row
      ↔ (keyOf join record).isNull = false ∧ finder rows [keyOf join record] = some row := by
  unfold rowOf?
  cases null : (keyOf join record).isNull <;> simp [null]

theorem rowOf?_eq_some_iff :
    rowOf? join finder rows record = some row ↔ Finds join finder rows record row := by
  rw [rowOf?_eq_some_iff_keyOf]
  constructor
  · rintro ⟨present, found⟩
    refine ⟨keyOf join record, get?_of_keyOf present, ?_, found⟩
    intro null
    rw [null] at present
    cases present
  · rintro ⟨key, reads, notNull, found⟩
    have same : keyOf join record = key := by rw [keyOf, reads, Option.getD_some]
    rw [same]
    exact ⟨Value.isNull_eq_false_iff.mpr notNull, found⟩

theorem rowOf?_eq_none_iff :
    rowOf? join finder rows record = none ↔ Misses join finder rows record := by
  simp only [Misses, ← rowOf?_eq_some_iff]
  exact Option.eq_none_iff_forall_ne_some

instance (rows : List Record) (record : Record) (row : Nat) :
    Decidable (Finds join finder rows record row) :=
  decidable_of_iff _ rowOf?_eq_some_iff

instance (rows : List Record) (record : Record) : Decidable (Misses join finder rows record) :=
  decidable_of_iff _ rowOf?_eq_none_iff

end Rows

/-- The records that a finder sends to a row, in their order. -/
def sentTo (join : JoinSetting) (finder : Finder) (rows records : List Record) (row : Nat) :
    List Record :=
  records.filter fun record => decide (Finds join finder rows record row)

/-- The records that a finder sends to some row, in their order. -/
def matched (join : JoinSetting) (finder : Finder) (rows records : List Record) : List Record :=
  records.filter fun record => !decide (Misses join finder rows record)

/-- The records that a finder sends to no row, in their order. -/
def unmatched (join : JoinSetting) (finder : Finder) (rows records : List Record) : List Record :=
  records.filter fun record => decide (Misses join finder rows record)

/-- Every record is matched or not. -/
theorem length_matched (rows records : List Record) :
    (matched join finder rows records).length
      = records.length - (unmatched join finder rows records).length := by
  have parts := records.length_eq_length_filter_add fun record =>
    decide (Misses join finder rows record)
  rw [matched, unmatched]
  omega

theorem unmatched_ne_nil_iff {rows records : List Record} :
    unmatched join finder rows records ≠ [] ↔ ∃ record ∈ records, Misses join finder rows record := by
  simp [unmatched, List.filter_eq_nil_iff]

theorem unmatched_cons_of_none {rows : List Record} {record : Record}
    (belongs : rowOf? join finder rows record = none) (records : List Record) :
    unmatched join finder rows (record :: records)
      = record :: unmatched join finder rows records :=
  List.filter_cons_of_pos (decide_eq_true (rowOf?_eq_none_iff.mp belongs))

theorem unmatched_cons_of_some {rows : List Record} {record : Record} {row : Nat}
    (belongs : rowOf? join finder rows record = some row) (records : List Record) :
    unmatched join finder rows (record :: records) = unmatched join finder rows records := by
  apply List.filter_cons_of_neg
  rw [decide_eq_true_iff]
  exact fun misses => misses row (rowOf?_eq_some_iff.mp belongs)

/-- The same records are unmatched where all of them belong to the same rows. -/
theorem unmatched_congr {rows others records : List Record}
    (same : ∀ record, rowOf? join finder others record = rowOf? join finder rows record) :
    unmatched join finder others records = unmatched join finder rows records := by
  apply List.filter_congr
  intro record _
  rw [decide_eq_decide, ← rowOf?_eq_none_iff, ← rowOf?_eq_none_iff, same]

/-! ## Lookups that linking does not change -/

/-- Whether every record belongs to the same row after a link as before it. -/
def Frozen (join : JoinSetting) (finder : Finder) : Prop :=
  ∀ rows row linked record,
    rowOf? join finder (link join rows row linked) record = rowOf? join finder rows record

/-- A search does not notice changes that its test does not notice. -/
theorem findIdx?_modify {α : Type} {test : α → Bool} {change : α → α}
    (same : ∀ item, test (change item) = test item) (items : List α) (index : Nat) :
    (items.modify index change).findIdx? test = items.findIdx? test := by
  induction items generalizing index with
  | nil => simp
  | cons item items ih =>
      cases index with
      | zero => simp [List.findIdx?_cons, same]
      | succ index => simp [List.findIdx?_cons, ih]

/-- A search by keys reads nothing but the keys. -/
theorem keysMatch_congr {keys : List String} {record other : Record}
    (reads : ∀ key ∈ keys, other.get? key = record.get? key) (arguments : List Value) :
    Finder.keysMatch keys arguments other = Finder.keysMatch keys arguments record := by
  simp only [Finder.keysMatch]
  rw [Bool.eq_iff_iff, List.all_eq_true, List.all_eq_true]
  apply forall₂_congr
  rintro ⟨key, argument⟩ member
  simp only [reads key (List.of_mem_zip member).1]

theorem keysMatch_append {field : String} {keys : List String} (separate : field ∉ keys)
    (arguments : List Value) (record : Record) (item : Value) :
    Finder.keysMatch keys arguments (record.append field item)
      = Finder.keysMatch keys arguments record := by
  apply keysMatch_congr
  intro key member
  have different : key ≠ field := fun same => separate (same ▸ member)
  exact Record.get?_update_of_ne record different _

/-- A search by keys is frozen where the list field is none of the keys. -/
theorem frozen_byKeys {keys : List String} (separate : join.targetListField ∉ keys) :
    Frozen join (Finder.byKeys keys) := by
  intro rows row linked record
  have search : ∀ arguments, Finder.byKeys keys (link join rows row linked) arguments
      = Finder.byKeys keys rows arguments := by
    intro arguments
    have same := findIdx?_modify
      (fun target => keysMatch_append separate arguments target (.record linked)) rows row
    simp only [Finder.byKeys, link, same]
  simp only [rowOf?, search]

/-- The finders that come with a table search by some of its key fields. -/
theorem exists_keys_of_builtIn {strategy : TableStrategy} {keys : List String} {name : String}
    (found : (Table.builtInFinders strategy keys).get? name = some finder) :
    ∃ searched, (∀ key ∈ searched, key ∈ keys) ∧ finder = Finder.byKeys searched := by
  cases strategy with
  | dictionary =>
      refine ⟨keys.take 1, fun key member => List.mem_of_mem_take member, ?_⟩
      simp only [Table.builtInFinders, Index.get?_insert, Index.get?_empty] at found
      split at found
      · exact (Option.some.inj found).symm
      · split at found
        · exact (Option.some.inj found).symm
        · simp at found
  | searchableList =>
      refine ⟨keys, fun key member => member, ?_⟩
      simp only [Table.builtInFinders, Index.get?_insert, Index.get?_empty] at found
      split at found
      · exact (Option.some.inj found).symm
      · simp at found
  | plainList => simp [Table.builtInFinders] at found

/-! ## What a run of links leaves -/

theorem link_eq (join : JoinSetting) (rows : List Record) (row : Nat) (record : Record) :
    link join rows row record
      = rows.modify row (·.append join.targetListField (.record record)) := rfl

@[simp] theorem length_link (rows : List Record) (row : Nat) (record : Record) :
    (link join rows row record).length = rows.length := by
  simp [link]

@[simp] theorem length_linkAll (rows records : List Record) :
    (linkAll join finder rows records).1.length = rows.length := by
  induction records generalizing rows with
  | nil => rfl
  | cons record records ih =>
      simp only [linkAll]
      split
      · rw [ih, length_link]
      · exact ih rows

/-- The rows after one record was looked up. -/
def step (join : JoinSetting) (finder : Finder) (rows : List Record) (record : Record) :
    List Record :=
  match rowOf? join finder rows record with
  | some row => link join rows row record
  | none => rows

/-- The rows after records were looked up one by one. -/
def rowsAfter (join : JoinSetting) (finder : Finder) (rows records : List Record) : List Record :=
  records.foldl (step join finder) rows

/-- The records that a row receives, each being looked up in the rows that the ones before
it left. -/
def received (join : JoinSetting) (finder : Finder) (rows : List Record) (row : Nat) :
    List Record → List Record
  | [] => []
  | record :: records =>
      let rest := received join finder (step join finder rows record) row records
      if rowOf? join finder rows record = some row then record :: rest else rest

@[simp] theorem rowsAfter_nil (rows : List Record) : rowsAfter join finder rows [] = rows := rfl

theorem rowsAfter_cons (rows : List Record) (record : Record) (records : List Record) :
    rowsAfter join finder rows (record :: records)
      = rowsAfter join finder (step join finder rows record) records := rfl

theorem linkAll_fst (rows records : List Record) :
    (linkAll join finder rows records).1 = rowsAfter join finder rows records := by
  induction records generalizing rows with
  | nil => rfl
  | cons record records ih =>
      rw [rowsAfter_cons, ← ih]
      simp only [linkAll, step]
      cases rowOf? join finder rows record <;> rfl

/-- One lookup changes the row of its record only, and there only the list field. -/
theorem getElem?_step (rows : List Record) (record : Record) (row : Nat) :
    (step join finder rows record)[row]?
      = rows[row]?.map fun original =>
          if rowOf? join finder rows record = some row then
            original.append join.targetListField (.record record)
          else original := by
  unfold step
  cases belongs : rowOf? join finder rows record with
  | none => simp
  | some other =>
      simp only [link_eq, List.getElem?_modify, Option.map_eq_map, Option.some.injEq]

/-- A run lets the list field of every row grow by what the row receives. -/
theorem getElem?_rowsAfter (rows records : List Record) (row : Nat) :
    (rowsAfter join finder rows records)[row]?
      = rows[row]?.map fun original => original.update join.targetListField
          (·.extendedBy ((received join finder rows row records).map .record)) := by
  induction records generalizing rows with
  | nil => simp [received, Value.extendedBy]
  | cons record records ih =>
      rw [rowsAfter_cons, ih, getElem?_step, Option.map_map]
      simp only [received]
      split
      · simp only [Function.comp_def, Record.append, Record.update_update, Value.extendedBy_grown,
          List.map_cons]
      · rfl

/-- A run over two lists is the run over the first and, on what it left, the one over the
second. -/
theorem received_append (rows earlier later : List Record) (row : Nat) :
    received join finder rows row (earlier ++ later)
      = received join finder rows row earlier
        ++ received join finder (rowsAfter join finder rows earlier) row later := by
  induction earlier generalizing rows with
  | nil => rfl
  | cons record earlier ih =>
      simp only [List.cons_append, received, ih, rowsAfter_cons]
      split <;> simp

theorem received_sublist (rows records : List Record) (row : Nat) :
    (received join finder rows row records).Sublist records := by
  induction records generalizing rows with
  | nil => exact List.Sublist.refl []
  | cons record records ih =>
      simp only [received]
      split
      · exact (ih _).cons_cons record
      · exact (ih _).cons record

/-- A record that a row receives was looked up in what the ones before it left. -/
theorem exists_of_received_eq {rows records before after : List Record} {row : Nat}
    {record : Record} (split : received join finder rows row records = before ++ record :: after) :
    ∃ earlier later, records = earlier ++ record :: later
      ∧ received join finder rows row earlier = before
      ∧ rowOf? join finder (rowsAfter join finder rows earlier) record = some row := by
  induction records generalizing rows before with
  | nil => simp [received] at split
  | cons first records ih =>
      by_cases belongs : rowOf? join finder rows first = some row
      · simp only [received, belongs, ↓reduceIte] at split
        cases before with
        | nil =>
            obtain ⟨rfl, -⟩ := List.cons.inj split
            exact ⟨[], records, rfl, rfl, belongs⟩
        | cons other before =>
            obtain ⟨rfl, rest⟩ := List.cons.inj split
            rcases ih rest with ⟨earlier, later, rfl, same, looked⟩
            exact ⟨first :: earlier, later, rfl, by simp [received, belongs, same], looked⟩
      · simp only [received, belongs, ↓reduceIte] at split
        rcases ih split with ⟨earlier, later, rfl, same, looked⟩
        exact ⟨first :: earlier, later, rfl, by simp [received, belongs, same], looked⟩

theorem Frozen.rowOf?_step (frozen : Frozen join finder) (rows : List Record)
    (first record : Record) :
    rowOf? join finder (step join finder rows first) record = rowOf? join finder rows record := by
  unfold step
  split
  · exact frozen rows _ first record
  · rfl

/-- With frozen lookups a row receives what the rows as they were send it. -/
theorem Frozen.received_eq_sentTo (frozen : Frozen join finder) (rows records : List Record)
    (row : Nat) : received join finder rows row records = sentTo join finder rows records row := by
  induction records generalizing rows with
  | nil => rfl
  | cons record records ih =>
      have rest : received join finder (step join finder rows record) row records
          = sentTo join finder rows records row := by
        rw [ih]
        simp only [sentTo, ← rowOf?_eq_some_iff, frozen.rowOf?_step]
      simp only [received, rest, sentTo, List.filter_cons, ← rowOf?_eq_some_iff, decide_eq_true_eq]

/-- Every row ends with the records sent to it by the rows as they were. -/
theorem Frozen.getElem?_linkAll (frozen : Frozen join finder) (rows records : List Record)
    (index : Nat) :
    (linkAll join finder rows records).1[index]?
      = rows[index]?.map fun original => original.update join.targetListField
          (·.extendedBy ((sentTo join finder rows records index).map .record)) := by
  rw [linkAll_fst, getElem?_rowsAfter, frozen.received_eq_sentTo]

/-- The records left over are those without a row among the rows as they were. -/
theorem Frozen.linkAll_unmatched (frozen : Frozen join finder) (rows records : List Record) :
    (linkAll join finder rows records).2 = unmatched join finder rows records := by
  induction records generalizing rows with
  | nil => rfl
  | cons record records ih =>
      simp only [linkAll]
      cases belongs : rowOf? join finder rows record with
      | none => rw [unmatched_cons_of_none belongs, ih rows]
      | some row =>
          rw [unmatched_cons_of_some belongs, ih]
          exact unmatched_congr (frozen rows row record)

/-! ## Runs that change nothing -/

/-- Whether a finder sends a record to a row that has the list field. -/
def Reaches (join : JoinSetting) (finder : Finder) (rows : List Record) (record : Record) : Prop :=
  ∃ row original, Finds join finder rows record row ∧ rows[row]? = some original
    ∧ original.has join.targetListField = true

/-- How many items a field holds in all rows together. -/
def itemCount (field : String) (rows : List Record) : Nat :=
  (rows.map fun row => ((row.get? field).map fun held => held.asItems.length).getD 0).sum

theorem link_of_has_false {rows : List Record} {row : Nat}
    (lacks : ∀ original, rows[row]? = some original → original.has join.targetListField = false)
    (record : Record) : link join rows row record = rows := by
  apply List.ext_getElem?
  intro index
  rw [link_eq, List.getElem?_modify]
  by_cases here : row = index
  · subst here
    cases present : rows[row]? with
    | none => rfl
    | some original =>
        have absent := lacks original present
        rw [Record.has_eq_isSome_get?, Option.isSome_eq_false_iff, Option.isNone_iff_eq_none] at absent
        simp [Record.append, Record.update_of_get?_none absent]
  · simp [here]

/-- A link to a row with the list field adds one item. -/
theorem itemCount_link {rows : List Record} {row : Nat} {original : Record}
    (present : rows[row]? = some original) (has : original.has join.targetListField = true)
    (record : Record) :
    itemCount join.targetListField (link join rows row record)
      = itemCount join.targetListField rows + 1 := by
  rw [Record.has_eq_isSome_get?, Option.isSome_iff_exists] at has
  rcases has with ⟨held, reads⟩
  rw [link_eq]
  induction rows generalizing row with
  | nil => simp at present
  | cons other rows ih =>
      cases row with
      | zero =>
          obtain rfl : other = original := by simpa using present
          simp [itemCount, Record.append, Record.get?_update_self, reads, Value.grown_eq,
            Value.asItems]
          omega
      | succ row =>
          have inside : rows[row]? = some original := by simpa using present
          have rest := ih inside
          simp only [itemCount, List.modify_succ_cons, List.map_cons, List.sum_cons] at rest ⊢
          omega

theorem itemCount_le_link (rows : List Record) (row : Nat) (record : Record) :
    itemCount join.targetListField rows
      ≤ itemCount join.targetListField (link join rows row record) := by
  by_cases effective : ∃ original, rows[row]? = some original
      ∧ original.has join.targetListField = true
  · rcases effective with ⟨original, present, has⟩
    rw [itemCount_link present has]
    omega
  · have same : link join rows row record = rows := by
      apply link_of_has_false
      intro original present
      apply Bool.eq_false_iff.mpr
      intro has
      exact effective ⟨original, present, has⟩
    exact Nat.le_of_eq (congrArg _ same.symm)

theorem itemCount_le_linkAll (join : JoinSetting) (finder : Finder) (rows records : List Record) :
    itemCount join.targetListField rows
      ≤ itemCount join.targetListField (linkAll join finder rows records).1 := by
  induction records generalizing rows with
  | nil => exact Nat.le_refl _
  | cons record records ih =>
      simp only [linkAll]
      split
      · exact Nat.le_trans (itemCount_le_link rows _ record) (ih _)
      · exact ih rows

/-- A run leaves the rows as they were exactly when no record reaches one of them. -/
theorem linkAll_eq_self_iff (join : JoinSetting) (finder : Finder) (rows records : List Record) :
    (linkAll join finder rows records).1 = rows
      ↔ ∀ record ∈ records, ¬Reaches join finder rows record := by
  induction records with
  | nil => simp [linkAll]
  | cons record records ih =>
      simp only [linkAll, List.forall_mem_cons]
      cases belongs : rowOf? join finder rows record with
      | none =>
          have unreached : ¬Reaches join finder rows record := by
            rintro ⟨row, original, finds, _⟩
            exact rowOf?_eq_none_iff.mp belongs row finds
          simp only [unreached, not_false_eq_true, true_and]
          exact ih
      | some row =>
          have finds := rowOf?_eq_some_iff.mp belongs
          by_cases reached : Reaches join finder rows record
          · rcases reached with ⟨other, original, sent, present, has⟩
            obtain rfl : other = row :=
              Option.some.inj ((rowOf?_eq_some_iff.mpr sent).symm.trans belongs)
            -- No later link takes the item away that this one adds.
            have more := itemCount_le_linkAll join finder (link join rows other record) records
            rw [itemCount_link present has] at more
            constructor
            · intro same
              simp only [same] at more
              omega
            · intro unreached
              exact absurd ⟨other, original, sent, present, has⟩ unreached.1
          · have same : link join rows row record = rows := by
              apply link_of_has_false
              intro original present
              apply Bool.eq_false_iff.mpr
              intro has
              exact reached ⟨row, original, finds, present, has⟩
            simp only [same, reached, not_false_eq_true, true_and]
            exact ih

end TypedSheets.Join
