import TypedSheets.Proofs.Diagnostics.Flags
import TypedSheets.Proofs.Join.Linking
import TypedSheets.Proofs.Record.Typing

/-!
# Conservation of records in a join

A join loses no record and invents none: each one is appended to the row that its key
finds in the table as it was, or reported as unmatched, and nothing but the list field
of the rows that receive something changes. A join whose fields or whose finder do not
exist leaves the table alone and says so.
-/

namespace TypedSheets

/-- Whether the finders of a table are those of its shape. -/
def Table.HasBuiltInFinders (table : Table) : Prop :=
  table.finders = Table.builtInFinders table.strategy table.keyFields

/-- Whether every record of a table has the fields of its class. -/
def Table.HasFields (table : Table) : Prop :=
  ∀ record ∈ table.records, record.HasFieldsOf table.recordType

namespace Join

/-- Whether both record classes have the fields that a join names. -/
def FieldsPresent (join : JoinSetting) (localType targetType : RecordType) : Prop :=
  (targetType.field? join.targetKeyField).isSome = true
    ∧ (targetType.field? join.targetListField).isSome = true
    ∧ (localType.field? join.localKeyField).isSome = true

theorem missingFields_eq_nil_iff (join : JoinSetting) (localType targetType : RecordType) :
    missingFields join localType targetType = [] ↔ FieldsPresent join localType targetType := by
  simp [missingFields, FieldsPresent, List.filter_eq_nil_iff, Option.isSome_iff_ne_none]

/-- The finders that a table comes with are frozen where the list field is no key. -/
theorem frozen_of_builtIn {join : JoinSetting} {target : Table} {finder : Finder}
    (builtIn : target.HasBuiltInFinders) (separate : join.targetListField ∉ target.keyFields)
    (found : target.finder? join.targetFinder = some finder) : Frozen join finder := by
  simp only [Table.finder?] at found
  rw [builtIn] at found
  rcases exists_keys_of_builtIn found with ⟨searched, among, rfl⟩
  exact frozen_byKeys fun member => separate (among _ member)

/-! ## What is reported -/

/-- The problem of a record for which no row was found. -/
def noRowIssue (join : JoinSetting) (tableName : String) (record : Record) : Issue :=
  ⟨record.row, some join.localKeyField, Flags.joinNoReferenceRow,
    "no " ++ tableName ++ " row for key '"
      ++ ((record.get? join.localKeyField).map Value.keyText).getD "" ++ "'"⟩

/-- The problem of a record of a table without the finder. -/
def lackingFinderIssue (join : JoinSetting) (tableName : String) (record : Record) : Issue :=
  ⟨record.row, some join.localKeyField, Flags.joinNoFindMethod,
    tableName ++ " has no finder '" ++ join.targetFinder ++ "'"⟩

/-- The problem of a join in which only some records were matched. -/
def countIssue (tableName : String) (matched all : Nat) : Issue :=
  ⟨none, none, Flags.joinIndexMismatch,
    Nat.repr matched ++ " of " ++ Nat.repr all ++ " references resolved into " ++ tableName⟩

/-- The problem of a join whose fields are not all there: those of the table are named before
that of the records. -/
def lackingFieldsIssue (join : JoinSetting) (localType targetType : RecordType) : Issue :=
  let lacking (type : RecordType) (field : String) : List String :=
    if type.field? field = none then [type.name ++ "." ++ field] else []
  ⟨none, none, Flags.versionMismatch, "join fields missing: " ++ ", ".intercalate
    (lacking targetType join.targetKeyField ++ lacking targetType join.targetListField
      ++ lacking localType join.localKeyField)⟩

theorem lackingFieldsIssue_eq (join : JoinSetting) (localType targetType : RecordType) :
    Issue.ofRun Flags.versionMismatch
        ("join fields missing: " ++ ", ".intercalate (missingFields join localType targetType))
      = lackingFieldsIssue join localType targetType := by
  have names : missingFields join localType targetType
      = (if targetType.field? join.targetKeyField = none then
            [targetType.name ++ "." ++ join.targetKeyField] else [])
        ++ (if targetType.field? join.targetListField = none then
            [targetType.name ++ "." ++ join.targetListField] else [])
        ++ if localType.field? join.localKeyField = none then
            [localType.name ++ "." ++ join.localKeyField] else [] := by
    cases keyed : targetType.field? join.targetKeyField <;>
      cases listed : targetType.field? join.targetListField <;>
        cases keys : localType.field? join.localKeyField <;>
          simp [missingFields, keyed, listed, keys]
  rw [names]
  rfl

theorem unmatchedIssue_eq (join : JoinSetting) (target : Table) :
    unmatchedIssue join target = noRowIssue join target.name := by
  funext record
  rw [unmatchedIssue, noRowIssue, keyOf]
  cases record.get? join.localKeyField <;> rfl

/-! ## What is conserved -/

/-- What a join with a finder makes of a table: every row receives the records sent to
it, and every record is received by its row or reported. -/
structure Conserves (join : JoinSetting) (finder : Finder) (records : List Record)
    (before : Table) (outcome : Outcome) (after : Table) : Prop where
  /-- The table keeps everything but its records. -/
  table : after = { before with records := after.records }
  rowCount : after.records.length = before.records.length
  /-- A row keeps everything but its list field, which is followed by what was sent. -/
  rows : ∀ (index : Nat) (original : Record), before.records[index]? = some original →
    ∃ row, after.records[index]? = some row
      ∧ original.GrownBy join.targetListField
        ((sentTo join finder before.records records index).map .record) row
  processed : outcome.processed = records.length
  resolved : outcome.resolved = (matched join finder before.records records).length
  issues : outcome.report.issues
    = (unmatched join finder before.records records).map (noRowIssue join before.name)
      ++ if unmatched join finder before.records records = [] then []
        else [countIssue before.name outcome.resolved outcome.processed]
  mismatch : outcome.report.flags.contains Flags.joinIndexMismatch = true
    ↔ ∃ record ∈ records, Misses join finder before.records record

/-- The outcome of a join that looked up a number of records of which some are left
over. -/
def outcomeOf (join : JoinSetting) (target : Table) (processed : Nat) (left : List Record) : Outcome :=
  let resolved := processed - left.length
  let shortfall := if left = [] then [] else [shortfallIssue target resolved processed]
  ⟨processed, resolved, Report.ofIssues (left.map (unmatchedIssue join target) ++ shortfall)⟩

/-- The shortfall is reported exactly when some record is left over. -/
theorem contains_mismatch_outcomeOf (join : JoinSetting) (target : Table) (processed : Nat)
    (left : List Record) :
    (outcomeOf join target processed left).report.flags.contains Flags.joinIndexMismatch = true
      ↔ left ≠ [] := by
  have single : Flags.joinIndexMismatch.IsSingle := ⟨3, rfl⟩
  have silent : (left.map (unmatchedIssue join target)).any
      (fun issue => issue.flag.contains Flags.joinIndexMismatch) = false := by
    rw [List.any_map, List.any_eq_false]
    intro record member
    change ¬Flags.joinNoReferenceRow.contains Flags.joinIndexMismatch = true
    decide
  simp only [outcomeOf]
  rw [Report.contains_flags_ofIssues single, List.any_append, silent, Bool.false_or]
  by_cases empty : left = []
  · simp [empty]
  · have loud : Flags.joinIndexMismatch.contains Flags.joinIndexMismatch = true := by decide
    simpa [empty, shortfallIssue, Issue.ofRun] using loud

theorem run_of_finder {join : JoinSetting} {localType : RecordType} {records : List Record}
    {target : Table} {finder : Finder} (present : FieldsPresent join localType target.recordType)
    (found : target.finder? join.targetFinder = some finder) :
    run join localType records target
      = (outcomeOf join target records.length (linkAll join finder target.records records).2,
          { target with records := (linkAll join finder target.records records).1 }) := by
  rw [← missingFields_eq_nil_iff] at present
  simp [run, outcomeOf, present, found]

theorem conserves_of_frozen {join : JoinSetting} {localType : RecordType} {target : Table}
    {finder : Finder} (records : List Record)
    (present : FieldsPresent join localType target.recordType)
    (found : target.finder? join.targetFinder = some finder) (shaped : target.HasFields)
    (frozen : Frozen join finder) :
    Conserves join finder records target (run join localType records target).1
      (run join localType records target).2 := by
  have left := frozen.linkAll_unmatched target.records records
  rw [run_of_finder present found, left]
  constructor
  case table => rfl
  case rowCount => exact length_linkAll _ _
  case rows =>
    intro index original inside
    have listed := shaped original (List.mem_of_getElem? inside)
    rcases listed.exists_get? present.2.1 with ⟨held, reads⟩
    refine ⟨_, ?_, Record.grownBy_update _ (reads ▸ rfl)⟩
    rw [frozen.getElem?_linkAll, inside, Option.map_some]
  case processed => rfl
  case resolved => exact (length_matched _ _).symm
  case issues => rw [outcomeOf, Report.issues_ofIssues, unmatchedIssue_eq]; rfl
  case mismatch => exact (contains_mismatch_outcomeOf join target _ _).trans unmatched_ne_nil_iff

theorem run_of_no_finder {join : JoinSetting} {localType : RecordType} {target : Table}
    (records : List Record) (present : FieldsPresent join localType target.recordType)
    (lacking : target.finder? join.targetFinder = none) :
    run join localType records target
      = (⟨0, 0, Report.ofIssues (records.map (noFinderIssue join target))⟩, target) := by
  rw [← missingFields_eq_nil_iff] at present
  simp [run, present, lacking]

theorem run_of_missing_fields {join : JoinSetting} {localType : RecordType} {target : Table}
    (records : List Record) (absent : ¬FieldsPresent join localType target.recordType) :
    run join localType records target
      = (⟨0, 0, Report.ofIssues [Issue.ofRun Flags.versionMismatch ("join fields missing: "
          ++ ", ".intercalate (missingFields join localType target.recordType))]⟩, target) := by
  rw [← missingFields_eq_nil_iff] at absent
  simp [run, absent]

/-- A join with all its fields sends every record to the row that its key finds in the
table as it was, or reports it. Without its finder it reports every record, and without
one of its fields it reports which ones are missing; the table is then left alone. -/
theorem run_conserves (join : JoinSetting) (localType : RecordType) (records : List Record)
    (target : Table) :
    (FieldsPresent join localType target.recordType → target.HasBuiltInFinders →
      target.HasFields → join.targetListField ∉ target.keyFields →
      ∀ finder, target.finder? join.targetFinder = some finder →
        Conserves join finder records target (run join localType records target).1
          (run join localType records target).2)
    ∧ (FieldsPresent join localType target.recordType →
      target.finder? join.targetFinder = none →
        (run join localType records target).2 = target
        ∧ (run join localType records target).1.processed = 0
        ∧ (run join localType records target).1.resolved = 0
        ∧ (run join localType records target).1.report.issues
          = records.map (lackingFinderIssue join target.name))
    ∧ (¬FieldsPresent join localType target.recordType →
        (run join localType records target).2 = target
        ∧ (run join localType records target).1.processed = 0
        ∧ (run join localType records target).1.resolved = 0
        ∧ (run join localType records target).1.report.issues
          = [lackingFieldsIssue join localType target.recordType]) := by
  refine ⟨?_, ?_, ?_⟩
  · intro present builtIn shaped separate finder found
    have frozen := frozen_of_builtIn builtIn separate found
    exact conserves_of_frozen records present found shaped frozen
  · intro present lacking
    rw [run_of_no_finder records present lacking]
    exact ⟨rfl, rfl, rfl, Report.issues_ofIssues _⟩
  · intro absent
    rw [run_of_missing_fields records absent, lackingFieldsIssue_eq]
    exact ⟨rfl, rfl, rfl, Report.issues_ofIssues _⟩

/-- Whether a join appends some record to a row of a table. -/
def Appends (join : JoinSetting) (localType : RecordType) (records : List Record) (target : Table) :
    Prop :=
  FieldsPresent join localType target.recordType
    ∧ ∃ finder, target.finder? join.targetFinder = some finder
      ∧ ∃ record ∈ records, Reaches join finder target.records record

/-- Only the records of a table change in a join, and never their number. -/
theorem run_table (join : JoinSetting) (localType : RecordType) (records : List Record)
    (target : Table) :
    (run join localType records target).2
        = { target with records := (run join localType records target).2.records }
      ∧ (run join localType records target).2.records.length = target.records.length := by
  by_cases present : FieldsPresent join localType target.recordType
  · cases found : target.finder? join.targetFinder with
    | none =>
        rw [run_of_no_finder records present found]
        exact ⟨rfl, rfl⟩
    | some finder =>
        rw [run_of_finder present found]
        exact ⟨rfl, length_linkAll _ _⟩
  · rw [run_of_missing_fields records present]
    exact ⟨rfl, rfl⟩

/-- A join leaves a table as it was exactly when it appends nothing to it. -/
theorem run_eq_self_iff (join : JoinSetting) (localType : RecordType) (records : List Record)
    (target : Table) :
    (run join localType records target).2 = target ↔ ¬Appends join localType records target := by
  by_cases present : FieldsPresent join localType target.recordType
  · cases found : target.finder? join.targetFinder with
    | none =>
        rw [run_of_no_finder records present found]
        simp [Appends, found]
    | some finder =>
        rw [run_of_finder present found]
        have rows := linkAll_eq_self_iff join finder target.records records
        constructor
        · rintro same ⟨_, other, also, record, member, reached⟩
          obtain rfl : finder = other := Option.some.inj (found.symm.trans also)
          exact rows.mp (congrArg Table.records same) record member reached
        · intro none
          have same := rows.mpr fun record member reached =>
            none ⟨present, finder, found, record, member, reached⟩
          simp only [same]
  · rw [run_of_missing_fields records present]
    simp [Appends, present]

/-- Items by number, each with a list of drops. -/
def sampleItems : Table :=
  let itemType : RecordType :=
    ⟨"Item", false, [⟨"id", .int⟩, ⟨"drops", .array (.record "ItemDrop")⟩]⟩
  Table.ofRecords "ItemTable" itemType .dictionary ["id"] [
    ⟨"Item", some "Item_1", some 2, [("id", .int 1), ("drops", .null)]⟩,
    ⟨"Item", some "Item_2", some 3, [("id", .int 2), ("drops", .null)]⟩]

/-- The drop of an item. -/
def sampleDrop (item : Value) (row : Nat) : Record :=
  ⟨"ItemDrop", none, some row, [("item_id", item)]⟩

/-- Drops of both items, of one by a member of an enumeration, and of no item. -/
def sampleDrops : List Record :=
  [sampleDrop (.int 2) 2, sampleDrop (.enum "Rarity" 1) 3, sampleDrop .null 4,
    sampleDrop (.int 2) 5, sampleDrop (.int 7) 6]

def sampleDropType : RecordType := ⟨"ItemDrop", true, [⟨"item_id", .int⟩]⟩

def sampleJoin : JoinSetting := ⟨"Item", "id", "item_id", "drops", "Find"⟩

/-- Three drops are appended to the items that they belong to, and the other two are reported. -/
theorem sampleDrops_conserved :
    FieldsPresent sampleJoin sampleDropType sampleItems.recordType ∧ sampleItems.HasBuiltInFinders
      ∧ sampleItems.HasFields ∧ sampleJoin.targetListField ∉ sampleItems.keyFields
      ∧ sampleItems.finder? sampleJoin.targetFinder = some (Finder.byKeys ["id"])
      ∧ Conserves sampleJoin (Finder.byKeys ["id"]) sampleDrops sampleItems
        (run sampleJoin sampleDropType sampleDrops sampleItems).1
        (run sampleJoin sampleDropType sampleDrops sampleItems).2
      ∧ (run sampleJoin sampleDropType sampleDrops sampleItems).2.records = [
        ⟨"Item", some "Item_1", some 2,
          [("id", .int 1), ("drops", .array [.record (sampleDrop (.enum "Rarity" 1) 3)])]⟩,
        ⟨"Item", some "Item_2", some 3, [("id", .int 2),
          ("drops", .array [.record (sampleDrop (.int 2) 2), .record (sampleDrop (.int 2) 5)])]⟩]
      ∧ (run sampleJoin sampleDropType sampleDrops sampleItems).1.resolved = 3
      ∧ (run sampleJoin sampleDropType sampleDrops sampleItems).1.report.issues = [
        ⟨some 4, some "item_id", Flags.joinNoReferenceRow, "no ItemTable row for key ''"⟩,
        ⟨some 6, some "item_id", Flags.joinNoReferenceRow, "no ItemTable row for key '7'"⟩,
        ⟨none, none, Flags.joinIndexMismatch, "3 of 5 references resolved into ItemTable"⟩] := by
  have present : FieldsPresent sampleJoin sampleDropType sampleItems.recordType :=
    ⟨by decide, by decide, by decide⟩
  have builtIn : sampleItems.HasBuiltInFinders := rfl
  have shaped : sampleItems.HasFields := by
    intro record member
    simp only [sampleItems, Table.ofRecords, List.mem_cons, List.not_mem_nil, or_false] at member
    rcases member with rfl | rfl <;> rfl
  have separate : sampleJoin.targetListField ∉ sampleItems.keyFields := by decide
  have found : sampleItems.finder? sampleJoin.targetFinder = some (Finder.byKeys ["id"]) := rfl
  have conserves := (run_conserves sampleJoin sampleDropType sampleDrops sampleItems).1 present
    builtIn shaped separate _ found
  exact ⟨present, builtIn, shaped, separate, found, conserves, by cbv, by decide +kernel,
    by decide +kernel⟩

end Join

end TypedSheets
