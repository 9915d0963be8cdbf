import TypedSheets.Grid.Basic
import TypedSheets.Json.Writer

/-!
# Storages

What a view can look at: a grid, rows of text that need not have one length, or rows
of JSON values as a sheet service returns them. All three are read as text cells; a
cell that a short row lacks is empty, and writing one makes the row longer.
-/

namespace TypedSheets

/-- The text a JSON value shows as a cell: itself if it is text, nothing for `null`,
its JSON text otherwise. -/
def Json.cellText : Json → String
  | .null => ""
  | .string text => text
  | other => other.compact

/-- The contents that a view reads and may write. -/
inductive Storage where
  | grid (owned : Grid)
  | texts (rows : List (List String))
  | values (rows : List (List Json))

namespace Storage

/-- How many rows there are. -/
def rowCount : Storage → Nat
  | .grid owned => owned.rowCount
  | .texts rows => rows.length
  | .values rows => rows.length

/-- How many columns there are: as many as the widest row has. -/
def columnCount : Storage → Nat
  | .grid owned => owned.columnCount
  | .texts rows => widest rows
  | .values rows => widest rows

/-- The text of a cell, empty where there is none. -/
def cell (storage : Storage) (row column : Nat) : String :=
  match storage with
  | .grid owned => owned.cell row column
  | .texts rows => ((rows[row]?).bind (·[column]?)).getD ""
  | .values rows => (((rows[row]?).bind (·[column]?)).map Json.cellText).getD ""

/-- Write into a row, which is made long enough by a filling first. -/
def putInRow {α : Type} (filling : α) (column : Nat) (value : α) (row : List α) : List α :=
  (row ++ List.replicate (column + 1 - row.length) filling).set column value

/-- Write a cell as text. -/
def put (storage : Storage) (row column : Nat) (text : String) : Storage :=
  match storage with
  | .grid owned => .grid (owned.set row column text)
  | .texts rows => .texts (rows.modify row (putInRow "" column text))
  | .values rows => .values (rows.modify row (putInRow Json.null column (Json.string text)))

@[simp] theorem rowCount_put (storage : Storage) (row column : Nat) (text : String) :
    (storage.put row column text).rowCount = storage.rowCount := by
  cases storage <;> simp [put, rowCount]

end Storage

end TypedSheets
