import TypedSheets.Json.Basic

/-!
# Diagnostics

What went wrong in a conversion without stopping it. Every problem is an issue of one
condition; a report is the list of issues together with the conditions that occurred,
combined bit by bit.
-/

namespace TypedSheets

/-- A set of conditions, one bit each. -/
structure Flags where
  bits : UInt32
deriving DecidableEq

namespace Flags

def none : Flags := ⟨0⟩
/-- A row was left out because all its key cells are empty. -/
def noKeySkip : Flags := ⟨1⟩
def emptyCell : Flags := ⟨2⟩
def convertFailed : Flags := ⟨4⟩
/-- Not every record was joined. -/
def joinIndexMismatch : Flags := ⟨8⟩
def joinNoReferenceRow : Flags := ⟨16⟩
def joinNoFindMethod : Flags := ⟨32⟩
/-- A sheet and a record class disagree. -/
def versionMismatch : Flags := ⟨64⟩

/-- The conditions that have a name. -/
def named : List (Flags × String) := [
  (noKeySkip, "NO_KEY_SKIP"),
  (emptyCell, "EMPTY_CELL"),
  (convertFailed, "CONVERT_FAILED"),
  (joinIndexMismatch, "JOIN_INDEX_MISMATCH"),
  (joinNoReferenceRow, "JOIN_NO_REFERENCE_ROW"),
  (joinNoFindMethod, "JOIN_NO_FIND_METHOD"),
  (versionMismatch, "VERSION_MISMATCH")]

/-- The conditions of either set. -/
def union (left right : Flags) : Flags := ⟨left.bits ||| right.bits⟩

/-- Whether a set holds every condition of another one that is not empty. -/
def contains (flags other : Flags) : Bool :=
  other.bits != 0 && flags.bits &&& other.bits == other.bits

/-- Whether there is any condition. -/
def any (flags : Flags) : Bool := flags.bits != 0

/-- The names of the conditions. -/
def names (flags : Flags) : List String :=
  (named.filter fun entry => flags.contains entry.1).map Prod.snd

/-- The names with bars between them. -/
def describe (flags : Flags) : String :=
  if flags.any then " | ".intercalate flags.names else "NONE"

end Flags

/-- One problem. -/
structure Issue where
  /-- The row of the grid; none for a problem of the whole run. -/
  row : Option Nat
  field : Option String
  flag : Flags
  message : String
deriving DecidableEq

/-- A problem of a whole run. -/
def Issue.ofRun (flag : Flags) (message : String) : Issue := ⟨none, none, flag, message⟩

/-- The problems of a run. -/
structure Report where
  flags : Flags
  issues : List Issue
deriving DecidableEq

namespace Report

/-- No problems. -/
def empty : Report := ⟨Flags.none, []⟩

/-- Add a problem at the end. -/
def add (report : Report) (issue : Issue) : Report :=
  ⟨report.flags.union issue.flag, report.issues ++ [issue]⟩

/-- Add problems one after the other. -/
def addAll (report : Report) (issues : List Issue) : Report :=
  issues.foldl add report

/-- The report of a list of problems. -/
def ofIssues (issues : List Issue) : Report := empty.addAll issues

/-- The problems of two reports. -/
def merge (report other : Report) : Report :=
  ⟨report.flags.union other.flags, report.issues ++ other.issues⟩

/-- How many issues are of a condition. -/
def count (report : Report) (flag : Flags) : Nat :=
  (report.issues.filter fun issue => issue.flag.contains flag).length

/-- Every condition that occurred with its number of issues. -/
def summary (report : Report) : String :=
  if report.flags.any then
    ", ".intercalate <|
      (Flags.named.filter fun entry => report.flags.contains entry.1).map fun entry =>
        entry.2 ++ ": " ++ Nat.repr (report.count entry.1)
  else "no issues"

/-- The JSON of an issue. -/
def issueToJson (issue : Issue) : Json :=
  .object [
    ("row", match issue.row with
      | some row => .number (.integer row)
      | none => .null),
    ("field", match issue.field with
      | some field => .string field
      | none => .null),
    ("flag", .number (.integer issue.flag.bits.toNat)),
    ("message", .string issue.message)]

/-- The JSON of a report. -/
def toJson (report : Report) : Json :=
  .object [
    ("flags", .number (.integer report.flags.bits.toNat)),
    ("issues", .array (report.issues.map issueToJson))]

end Report

end TypedSheets
