import TypedSheets.Diagnostics
import TypedSheets.Table.Basic

/-!
# Joins

Each record of a sheet is appended to a list field of the row of a table that its key
finds. Records without a row are reported, and the join goes on with the next one.
-/

namespace TypedSheets.Join

/-- What came of a join. -/
structure Outcome where
  /-- Records that were looked up. -/
  processed : Nat
  /-- Records that were appended to a row. -/
  resolved : Nat
  report : Report
deriving DecidableEq

/-- The fields of a join that the record classes lack, as class and field. -/
def missingFields (join : JoinSetting) (localType targetType : RecordType) : List String :=
  ([(targetType, join.targetKeyField), (targetType, join.targetListField),
      (localType, join.localKeyField)].filter fun (type, field) => (type.field? field).isNone).map
    fun (type, field) => type.name ++ "." ++ field

/-- The key that a record is looked up by. -/
def keyOf (join : JoinSetting) (record : Record) : Value :=
  (record.get? join.localKeyField).getD .null

/-- The row that a record belongs to; none without a key. -/
def rowOf? (join : JoinSetting) (finder : Finder) (rows : List Record) (record : Record) :
    Option Nat :=
  let key := keyOf join record
  if key.isNull then none else finder rows [key]

/-- Append a record to the list field of a row. -/
def link (join : JoinSetting) (rows : List Record) (row : Nat) (record : Record) : List Record :=
  rows.modify row fun target => target.append join.targetListField (.record record)

/-- The rows and the unmatched records after linking records one by one. -/
def linkAll (join : JoinSetting) (finder : Finder) (rows : List Record) :
    List Record → List Record × List Record
  | [] => (rows, [])
  | record :: records =>
      match rowOf? join finder rows record with
      | some row => linkAll join finder (link join rows row record) records
      | none =>
          let (rows, unmatched) := linkAll join finder rows records
          (rows, record :: unmatched)

/-- The problem of a record without a row. -/
def unmatchedIssue (join : JoinSetting) (target : Table) (record : Record) : Issue :=
  ⟨record.row, some join.localKeyField, Flags.joinNoReferenceRow,
    "no " ++ target.name ++ " row for key '" ++ (keyOf join record).keyText ++ "'"⟩

/-- The problem of a record when the table lacks the finder. -/
def noFinderIssue (join : JoinSetting) (target : Table) (record : Record) : Issue :=
  ⟨record.row, some join.localKeyField, Flags.joinNoFindMethod,
    target.name ++ " has no finder '" ++ join.targetFinder ++ "'"⟩

/-- The problem of a join in which some records have no row. -/
def shortfallIssue (target : Table) (resolved processed : Nat) : Issue :=
  Issue.ofRun Flags.joinIndexMismatch <|
    Nat.repr resolved ++ " of " ++ Nat.repr processed ++ " references resolved into " ++ target.name

/-- Join records into a table. -/
def run (join : JoinSetting) (localType : RecordType) (records : List Record) (target : Table) :
    Outcome × Table :=
  let missing := missingFields join localType target.recordType
  if missing ≠ [] then
    let issue := Issue.ofRun Flags.versionMismatch ("join fields missing: " ++ ", ".intercalate missing)
    (⟨0, 0, Report.ofIssues [issue]⟩, target)
  else
    match target.finder? join.targetFinder with
    | none => (⟨0, 0, Report.ofIssues (records.map (noFinderIssue join target))⟩, target)
    | some finder =>
        let (rows, unmatched) := linkAll join finder target.records records
        let resolved := records.length - unmatched.length
        let issues := unmatched.map (unmatchedIssue join target)
        let shortfall :=
          if unmatched = [] then [] else [shortfallIssue target resolved records.length]
        (⟨records.length, resolved, Report.ofIssues (issues ++ shortfall)⟩,
          { target with records := rows })

end TypedSheets.Join
