import TypedSheets.Proofs.Join.Conservation

/-!
# What a join delivers to a row

A setting names a key field of the table, but the finder decides: the finders that come
with a table compare the key of a record with one key field, and that is the first key of
a dictionary or the only key of a searchable list, whatever field the setting names. Each
lookup reads the rows as the records before it left them. This matters only where the
list field of the join is the searched key: there the row is found by what it has grown
to.
-/

namespace TypedSheets

/-- The key field that a finder of a table's shape compares a single argument with; none
where the shape has no such finder or the finder takes another number of arguments. -/
def Table.searchKey? (table : Table) (name : String) : Option String :=
  match table.strategy, table.keyFields with
  | .dictionary, key :: _ => if name = "Find" ∨ name = "Get" then some key else none
  | .searchableList, [key] => if name = "Find" then some key else none
  | _, _ => none

/-- Whether a record holds a value equal to a key in a field. -/
def Record.holdsKey (field : String) (key : Value) (record : Record) : Bool :=
  (record.get? field).any (·.keyEq key)

theorem Record.holdsKey_iff {field : String} {key : Value} {record : Record} :
    record.holdsKey field key = true
      ↔ ∃ held, record.get? field = some held ∧ held.keyEq key = true := by
  cases reads : record.get? field <;> simp [holdsKey, reads]

/-- A changed record is found by what the change makes of its values. -/
theorem Record.holdsKey_update_iff {record : Record} {name field : String}
    {change : Value → Value} {key : Value} :
    (record.update name change).holdsKey field key = true
      ↔ ∃ held, record.get? field = some held
        ∧ (if field = name then change held else held).keyEq key = true := by
  rw [holdsKey_iff, get?_update]
  by_cases same : field = name
  · simp [same]
  · simp [same]

theorem Finder.byKeys_single (field : String) (key : Value) (rows : List Record) :
    Finder.byKeys [field] rows [key] = rows.findIdx? (·.holdsKey field key) := by
  simp only [byKeys, List.length_singleton, ↓reduceIte]
  congr 1
  funext record
  cases reads : record.get? field <;> simp [keysMatch, Record.holdsKey, reads]

theorem Finder.byKeys_of_length_ne {keys : List String} (several : keys.length ≠ 1)
    (key : Value) (rows : List Record) : Finder.byKeys keys rows [key] = none := by
  simp [byKeys, Ne.symm several]

/-- The finders that come with a table look a single argument up in the searched key. -/
theorem Table.HasBuiltInFinders.bind_finder? {table : Table} (builtIn : table.HasBuiltInFinders)
    (name : String) (rows : List Record) (argument : Value) :
    ((table.finder? name).bind fun finder => finder rows [argument])
      = (table.searchKey? name).bind fun key => rows.findIdx? (·.holdsKey key argument) := by
  simp only [finder?, searchKey?]
  rw [builtIn]
  cases table.strategy with
  | plainList => rfl
  | dictionary =>
      simp only [builtInFinders, Index.get?_insert, Index.get?_empty]
      cases table.keyFields with
      | nil =>
          have nothing : Finder.byKeys [] rows [argument] = none :=
            Finder.byKeys_of_length_ne (by simp) argument rows
          by_cases find : name = "Find" <;> by_cases get : name = "Get" <;>
            simp [find, get, nothing]
      | cons key keys =>
          by_cases find : name = "Find" <;> by_cases get : name = "Get" <;>
            simp [find, get, Finder.byKeys_single]
  | searchableList =>
      simp only [builtInFinders, Index.get?_insert, Index.get?_empty]
      rcases table.keyFields with _ | ⟨key, _ | ⟨other, keys⟩⟩
      · by_cases find : name = "Find" <;> simp [find, Finder.byKeys_of_length_ne]
      · by_cases find : name = "Find" <;> simp [find, Finder.byKeys_single]
      · by_cases find : name = "Find" <;> simp [find, Finder.byKeys_of_length_ne]

namespace Join

instance (join : JoinSetting) (localType targetType : RecordType) :
    Decidable (FieldsPresent join localType targetType) :=
  inferInstanceAs (Decidable (_ ∧ _ ∧ _))

/-- The lookups of a join: those of its finder where its fields and its finder exist, and
nowhere else one that succeeds. -/
def lookup (join : JoinSetting) (localType : RecordType) (target : Table) : Finder :=
  fun rows arguments =>
    if FieldsPresent join localType target.recordType then
      (target.finder? join.targetFinder).bind fun finder => finder rows arguments
    else none

/-- The records that a join delivers to a row of a table. -/
def delivered (join : JoinSetting) (localType : RecordType) (records : List Record)
    (target : Table) (row : Nat) : List Record :=
  received join (lookup join localType target) target.records row records

theorem rowsAfter_of_no_row {join : JoinSetting} {finder : Finder}
    (never : ∀ rows arguments, finder rows arguments = none) (rows records : List Record) :
    rowsAfter join finder rows records = rows := by
  induction records with
  | nil => rfl
  | cons record records ih =>
      have still : step join finder rows record = rows := by simp [step, rowOf?, never]
      rw [rowsAfter_cons, still, ih]

/-- A join leaves the rows that its lookups lead to. -/
theorem run_records (join : JoinSetting) (localType : RecordType) (records : List Record)
    (target : Table) :
    (run join localType records target).2.records
      = rowsAfter join (lookup join localType target) target.records records := by
  by_cases present : FieldsPresent join localType target.recordType
  · cases found : target.finder? join.targetFinder with
    | none =>
        rw [run_of_no_finder records present found, rowsAfter_of_no_row]
        intro rows arguments
        simp [lookup, found]
    | some finder =>
        have same : lookup join localType target = finder := by
          funext rows arguments
          simp [lookup, present, found]
        rw [run_of_finder present found, same]
        exact linkAll_fst target.records records
  · rw [run_of_missing_fields records present, rowsAfter_of_no_row]
    intro rows arguments
    simp [lookup, present]

/-- A join lets the list field of every row grow by what it delivers to the row. -/
theorem getElem?_run (join : JoinSetting) (localType : RecordType) (records : List Record)
    (target : Table) (row : Nat) :
    (run join localType records target).2.records[row]?
      = target.records[row]?.map fun original => original.update join.targetListField
          (·.extendedBy ((delivered join localType records target row).map .record)) := by
  rw [run_records, getElem?_rowsAfter]
  rfl

/-- A record with a key goes to the first row whose searched key holds it. -/
theorem rowOf?_lookup_eq_some_iff {join : JoinSetting} {localType : RecordType} {target : Table}
    (builtIn : target.HasBuiltInFinders) {rows : List Record} {record : Record} {row : Nat} :
    rowOf? join (lookup join localType target) rows record = some row
      ↔ FieldsPresent join localType target.recordType
        ∧ (keyOf join record).isNull = false
        ∧ ∃ key, target.searchKey? join.targetFinder = some key
          ∧ rows.findIdx? (·.holdsKey key (keyOf join record)) = some row := by
  rw [rowOf?_eq_some_iff_keyOf, lookup, builtIn.bind_finder?]
  by_cases present : FieldsPresent join localType target.recordType
  · simp [present, Option.bind_eq_some_iff]
  · simp [present]

/-- Every record that a join appends to a row has a key, and the key equals what the row
held in the field that the finder searches. Where that field is the list field itself, it
equals what the row held there together with the records appended before. -/
theorem run_links_by_searchKey (join : JoinSetting) (localType : RecordType)
    (records : List Record) {target : Table} {row : Nat} {original : Record}
    (builtIn : target.HasBuiltInFinders) (inside : target.records[row]? = some original) :
    (run join localType records target).2.records[row]?
        = some (original.update join.targetListField
            (·.extendedBy ((delivered join localType records target row).map .record)))
      ∧ (delivered join localType records target row).Sublist records
      ∧ ∀ before record after,
        delivered join localType records target row = before ++ record :: after →
          ∃ key held value, target.searchKey? join.targetFinder = some key
            ∧ original.get? key = some held
            ∧ record.get? join.localKeyField = some value
            ∧ value.isNull = false
            ∧ (if key = join.targetListField then held.extendedBy (before.map .record)
                else held).keyEq value = true := by
  refine ⟨?_, received_sublist _ _ _, ?_⟩
  · rw [getElem?_run, inside, Option.map_some]
  · intro before record after split
    rcases exists_of_received_eq split with ⟨earlier, later, -, same, belongs⟩
    rcases (rowOf?_lookup_eq_some_iff builtIn).mp belongs with ⟨-, present, key, searched, found⟩
    rcases List.findIdx?_eq_some_iff_getElem.mp found with ⟨bound, holds, -⟩
    -- The row is found by what it holds after the records before this one.
    have grown : (rowsAfter join (lookup join localType target) target.records earlier)[row]?
        = some (original.update join.targetListField (·.extendedBy (before.map .record))) := by
      rw [getElem?_rowsAfter, inside, same, Option.map_some]
    rw [List.getElem?_eq_getElem bound] at grown
    rw [Option.some.inj grown] at holds
    rcases Record.holdsKey_update_iff.mp holds with ⟨held, reads, equal⟩
    exact ⟨key, held, _, searched, reads, get?_of_keyOf present, present, equal⟩

/-- The second item receives two drops, and both have its number. -/
theorem sampleDrops_linked :
    sampleItems.HasBuiltInFinders
      ∧ delivered sampleJoin sampleDropType sampleDrops sampleItems 1
        = [sampleDrop (.int 2) 2] ++ sampleDrop (.int 2) 5 :: []
      ∧ ∃ original, sampleItems.records[1]? = some original
        ∧ ∃ key held value, sampleItems.searchKey? sampleJoin.targetFinder = some key
          ∧ original.get? key = some held
          ∧ (sampleDrop (.int 2) 5).get? sampleJoin.localKeyField = some value
          ∧ value.isNull = false
          ∧ (if key = sampleJoin.targetListField then
              held.extendedBy ([sampleDrop (.int 2) 2].map .record)
            else held).keyEq value = true := by
  have builtIn : sampleItems.HasBuiltInFinders := rfl
  have sent : delivered sampleJoin sampleDropType sampleDrops sampleItems 1
      = [sampleDrop (.int 2) 2] ++ sampleDrop (.int 2) 5 :: [] := by cbv
  have inside : sampleItems.records[1]?
      = some ⟨"Item", some "Item_2", some 3, [("id", .int 2), ("drops", .null)]⟩ := rfl
  have linked := run_links_by_searchKey sampleJoin sampleDropType sampleDrops builtIn inside
  exact ⟨builtIn, sent, _, inside, linked.2.2 _ _ _ sent⟩

/-- An item with a code beside its number. -/
def codedItems : Table :=
  let itemType : RecordType :=
    ⟨"Item", false, [⟨"id", .int⟩, ⟨"code", .int⟩, ⟨"drops", .array (.record "ItemDrop")⟩]⟩
  Table.ofRecords "ItemTable" itemType .dictionary ["id"] [
    ⟨"Item", some "Item_1", some 2, [("id", .int 1), ("code", .int 7), ("drops", .null)]⟩]

/-- A drop of the first item, and one whose key is what the number of that item has grown
to with the first drop. -/
def chainedDrops : List Record :=
  [sampleDrop (.int 1) 2, sampleDrop (.array [.int 1, .record (sampleDrop (.int 1) 2)]) 3]

/-- A join by the code links a drop by the number: the code differs from its key. A join
into the number itself links a second drop, whose key differs from the number that the
row held. -/
theorem codedItems_linked_by_number :
    codedItems.HasBuiltInFinders
      ∧ (run ⟨"Item", "code", "item_id", "drops", "Find"⟩ sampleDropType [sampleDrop (.int 1) 2]
            codedItems).2.records[0]?.bind (·.get? "drops")
          = some (.array [.record (sampleDrop (.int 1) 2)])
      ∧ codedItems.records[0]?.bind (·.get? "code") = some (.int 7)
      ∧ (sampleDrop (.int 1) 2).get? "item_id" = some (.int 1)
      ∧ (Value.int 7).keyEq (.int 1) = false
      ∧ (run ⟨"Item", "id", "item_id", "id", "Find"⟩ sampleDropType chainedDrops
            codedItems).2.records[0]?.bind (·.get? "id")
          = some (.array (.int 1 :: chainedDrops.map .record))
      ∧ codedItems.records[0]?.bind (·.get? "id") = some (.int 1)
      ∧ ∀ key ∈ chainedDrops[1]?.bind (·.get? "item_id"), (Value.int 1).keyEq key = false := by
  refine ⟨rfl, by cbv, rfl, rfl, by cbv, by cbv, rfl, ?_⟩
  intro key reads
  obtain rfl := Option.some.inj reads
  cbv

end Join

end TypedSheets
