import TypedSheets.Proofs.Join.Delivery

/-!
# Joins and the types of a table

A join appends to the field that its setting names, of whatever type the field is. The
table stays well-typed exactly if the field is declared as a list of the records that are
joined, or if nothing is appended: a field of any other type becomes a list that its type
does not accept.
-/

namespace TypedSheets

/-- Whether every record of a table is of the table's class. -/
def Table.WellTyped (table : Table) : Prop :=
  ∀ record ∈ table.records, record.WellTyped table.recordType

namespace ValueType

/-- A list stays within its array type when it grows by items of the element type. -/
theorem accepts_extendedBy {element : ValueType} {held : Value} {items : List Value}
    (accepted : (ValueType.array element).accepts held = true)
    (fits : ∀ item ∈ items, element.accepts item = true) :
    (ValueType.array element).accepts (held.extendedBy items) = true := by
  cases items with
  | nil => exact accepted
  | cons item items =>
      rw [Value.extendedBy, accepts_array_iff]
      intro other member
      rcases List.mem_append.mp member with before | added
      · exact accepts_of_mem_asItems accepted before
      · exact fits other added

/-- Only a list of the class of a record may hold the record. -/
theorem eq_array_of_accepts {type : ValueType} {items : List Value} {record : Record}
    (accepted : type.accepts (.array items) = true) (member : .record record ∈ items) :
    type = .array (.record record.typeName) := by
  rcases exists_array_of_accepts accepted with ⟨element, rfl⟩
  rw [eq_record_of_accepts ((accepts_array_iff element items).mp accepted _ member)]

end ValueType

namespace Join

/-- A join that appends anything delivers a record to a row with the list field. -/
theorem exists_delivered_of_appends {join : JoinSetting} {localType : RecordType}
    {records : List Record} {target : Table} (appends : Appends join localType records target) :
    ∃ row original held, target.records[row]? = some original
      ∧ original.get? join.targetListField = some held
      ∧ delivered join localType records target row ≠ [] := by
  by_contra nothing
  have same : (run join localType records target).2.records = target.records := by
    apply List.ext_getElem?
    intro row
    rw [getElem?_run]
    cases inside : target.records[row]? with
    | none => rfl
    | some original =>
        rw [Option.map_some]
        congr 1
        cases reads : original.get? join.targetListField with
        | none => exact Record.update_of_get?_none reads _
        | some held =>
            have idle : delivered join localType records target row = [] := by
              by_contra busy
              exact nothing ⟨row, original, held, inside, reads, busy⟩
            simp only [idle, List.map_nil, Value.extendedBy, Record.update_id]
  have unchanged : (run join localType records target).2 = target := by
    rw [(run_table join localType records target).1, same]
  exact (run_eq_self_iff join localType records target).mp unchanged appends

/-- A join into a list of the joined class keeps a table well-typed. -/
theorem wellTyped_run {join : JoinSetting} {localType : RecordType} {records : List Record}
    {target : Table} {field : FieldDescriptor} (typed : target.WellTyped)
    (ofType : ∀ record ∈ records, record.typeName = localType.name)
    (found : target.recordType.field? join.targetListField = some field)
    (listed : field.type = .array (.record localType.name)) :
    (run join localType records target).2.WellTyped := by
  intro final member
  rcases List.mem_iff_getElem?.mp member with ⟨row, reads⟩
  rw [getElem?_run] at reads
  rcases Option.map_eq_some_iff.mp reads with ⟨original, inside, rfl⟩
  have sameType : (run join localType records target).2.recordType = target.recordType := by
    rw [(run_table join localType records target).1]
  rw [sameType]
  apply (typed original (List.mem_of_getElem? inside)).update
  intro descriptor held declared accepted
  obtain rfl : field = descriptor := Option.some.inj (found.symm.trans declared)
  rw [listed] at accepted ⊢
  apply ValueType.accepts_extendedBy accepted
  intro item inItems
  rcases List.mem_map.mp inItems with ⟨record, sent, rfl⟩
  have joined : record ∈ records := (received_sublist _ _ _).mem sent
  have named := ofType record joined
  rcases record with ⟨typeName, assetName, number, fields⟩
  simp only at named
  simp [ValueType.accepts, named]

/-- A table that is well-typed after something was appended has a list field for it. -/
theorem exists_listField_of_delivered {join : JoinSetting} {localType : RecordType}
    {records : List Record} {target : Table} {row : Nat} {original record : Record} {held : Value}
    (kept : (run join localType records target).2.WellTyped)
    (inside : target.records[row]? = some original)
    (reads : original.get? join.targetListField = some held)
    (sent : record ∈ delivered join localType records target row) :
    ∃ field, target.recordType.field? join.targetListField = some field
      ∧ field.type = .array (.record record.typeName) := by
  have final := getElem?_run join localType records target row
  rw [inside, Option.map_some] at final
  generalize delivered join localType records target row = items at final sent
  cases items with
  | nil => simp at sent
  | cons first others =>
      have holds : (original.update join.targetListField
            (·.extendedBy ((first :: others).map .record))).get? join.targetListField
          = some (.array (held.asItems ++ (first :: others).map .record)) := by
        rw [Record.get?_update_self, reads]
        rfl
      rcases (kept _ (List.mem_of_getElem? final)).accepted _ _ holds with ⟨field, found, accepted⟩
      rw [(run_table join localType records target).1] at found
      exact ⟨field, found, ValueType.eq_array_of_accepts accepted
        (List.mem_append_right _ (List.mem_map_of_mem sent))⟩

/-- A join keeps a table well-typed exactly if its list field is declared as a list of the
joined class, or it appends nothing. -/
theorem wellTyped_run_iff (join : JoinSetting) {localType : RecordType} {records : List Record}
    {target : Table} (typed : target.WellTyped)
    (ofType : ∀ record ∈ records, record.typeName = localType.name) :
    (run join localType records target).2.WellTyped
      ↔ (∃ field, target.recordType.field? join.targetListField = some field
          ∧ field.type = .array (.record localType.name))
        ∨ ¬Appends join localType records target := by
  constructor
  · intro kept
    by_cases appends : Appends join localType records target
    · left
      rcases exists_delivered_of_appends appends with ⟨row, original, held, inside, reads, busy⟩
      rcases List.exists_mem_of_ne_nil _ busy with ⟨record, sent⟩
      have joined : record ∈ records := (received_sublist _ _ _).mem sent
      rw [← ofType record joined]
      exact exists_listField_of_delivered kept inside reads sent
    · exact Or.inr appends
  · rintro (⟨field, found, listed⟩ | idle)
    · exact wellTyped_run typed ofType found listed
    · rw [(run_eq_self_iff join localType records target).mpr idle]
      exact typed

/-- Drops joined into the list of their items leave the items well-typed. -/
theorem sampleItems_stay_wellTyped :
    sampleItems.WellTyped
      ∧ (∀ record ∈ sampleDrops, record.typeName = sampleDropType.name)
      ∧ delivered sampleJoin sampleDropType sampleDrops sampleItems 1
        = [sampleDrop (.int 2) 2, sampleDrop (.int 2) 5]
      ∧ (run sampleJoin sampleDropType sampleDrops sampleItems).2.WellTyped := by
  have typed : sampleItems.WellTyped := by
    intro record member
    simp only [sampleItems, Table.ofRecords, List.mem_cons, List.not_mem_nil, or_false] at member
    rcases member with rfl | rfl <;>
      exact .of_forall₂ (.cons ⟨rfl, by cbv⟩ (.cons ⟨rfl, by cbv⟩ .nil))
  have ofType : ∀ record ∈ sampleDrops, record.typeName = sampleDropType.name := by decide
  refine ⟨typed, ofType, by cbv, ?_⟩
  exact (wellTyped_run_iff sampleJoin typed ofType).mpr (Or.inl ⟨_, rfl, rfl⟩)

/-- An item with a stock, which is a number. -/
def stockedItems : Table :=
  let itemType : RecordType := ⟨"Item", false, [⟨"id", .int⟩, ⟨"stock", .int⟩]⟩
  Table.ofRecords "ItemTable" itemType .dictionary ["id"] [
    ⟨"Item", some "Item_1", some 2, [("id", .int 1), ("stock", .int 5)]⟩]

/-- A join that names the stock as its list makes a list of the number and the drop. -/
theorem stockedItems_lose_types :
    stockedItems.WellTyped
      ∧ (sampleDrop (.int 1) 2).typeName = sampleDropType.name
      ∧ (sampleDrop (.int 1) 2).WellTyped sampleDropType
      ∧ (run ⟨"Item", "id", "item_id", "stock", "Find"⟩ sampleDropType [sampleDrop (.int 1) 2]
            stockedItems).2.records[0]?.bind (·.get? "stock")
          = some (.array [.int 5, .record (sampleDrop (.int 1) 2)])
      ∧ ¬(run ⟨"Item", "id", "item_id", "stock", "Find"⟩ sampleDropType [sampleDrop (.int 1) 2]
            stockedItems).2.WellTyped := by
  have typed : stockedItems.WellTyped := by
    intro record member
    obtain rfl := List.mem_singleton.mp member
    exact .of_forall₂ (.cons ⟨rfl, by cbv⟩ (.cons ⟨rfl, by cbv⟩ .nil))
  have dropTyped : (sampleDrop (.int 1) 2).WellTyped sampleDropType :=
    .of_forall₂ (.cons ⟨rfl, by cbv⟩ .nil)
  have stock : (run ⟨"Item", "id", "item_id", "stock", "Find"⟩ sampleDropType
      [sampleDrop (.int 1) 2] stockedItems).2.records[0]?.bind (·.get? "stock")
      = some (.array [.int 5, .record (sampleDrop (.int 1) 2)]) := by cbv
  refine ⟨typed, rfl, dropTyped, stock, ?_⟩
  intro kept
  rcases Option.bind_eq_some_iff.mp stock with ⟨final, inside, reads⟩
  rcases (kept final (List.mem_of_getElem? inside)).accepted _ _ reads with ⟨field, found, accepted⟩
  rw [(run_table _ _ _ _).1] at found
  obtain rfl := Option.some.inj found
  simp [ValueType.accepts] at accepted

end Join

end TypedSheets
