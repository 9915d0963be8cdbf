import TypedSheets.Grid.Range
import TypedSheets.Grid.Storage

/-!
# Views

A window on a storage: where it begins, how far it extends, and whether writing
through it is allowed. Slicing moves the window and copies nothing. A sheet is always
read through a view; a grid is read through the view of all of it.
-/

namespace TypedSheets

/-- Why a view refuses an operation. -/
inductive GridError where
  /-- Writing a cell through a view that is read-only. -/
  | readOnlyCell
  /-- Replacing the contents through a view. -/
  | replacedContents
deriving DecidableEq

namespace GridError

/-- The text of an error. -/
def message : GridError → String
  | .readOnlyCell => "Unsupported operation on read-only view: set_cell"
  | .replacedContents => "Unsupported operation on read-only view: set_from_list"

end GridError

/-- A window on a storage. -/
structure Window where
  rowOffset : Nat
  columnOffset : Nat
  rowCount : Nat
  columnCount : Nat
  writable : Bool
deriving DecidableEq

namespace Window

/-- The window on all of a storage. -/
def whole (storage : Storage) (writable : Bool) : Window :=
  ⟨0, 0, storage.rowCount, storage.columnCount, writable⟩

/-- The rows of a window that a slice request selects. -/
def sliceRows (window : Window) (start : Int) (stop : Option Int) : Window :=
  let (first, last) := Grid.normalizeRange start stop window.rowCount
  { window with rowOffset := window.rowOffset + first, rowCount := last - first }

/-- The columns of a window that a slice request selects. -/
def sliceColumns (window : Window) (start : Int) (stop : Option Int) : Window :=
  let (first, last) := Grid.normalizeRange start stop window.columnCount
  { window with columnOffset := window.columnOffset + first, columnCount := last - first }

/-- The window for reading only. -/
def readOnly (window : Window) : Window := { window with writable := false }

/-- One line that names the fields of a window. -/
def describe (window : Window) : String :=
  let fields := [
    "row_offset: " ++ Nat.repr window.rowOffset,
    "col_offset: " ++ Nat.repr window.columnOffset,
    "rows: " ++ Nat.repr window.rowCount,
    "cols: " ++ Nat.repr window.columnCount,
    "writable: " ++ (if window.writable then "true" else "false")]
  "GridView \x7b " ++ ", ".intercalate fields ++ " \x7d"

end Window

/-- A storage seen through a window. -/
structure View where
  storage : Storage
  window : Window

namespace View

/-- The read-only view of a whole storage. -/
def shared (storage : Storage) : View := ⟨storage, Window.whole storage false⟩

/-- The view of a whole storage that writes through. -/
def exclusive (storage : Storage) : View := ⟨storage, Window.whole storage true⟩

/-- How many rows the view shows. -/
def rowCount (view : View) : Nat := view.window.rowCount

/-- How many columns the view shows. -/
def columnCount (view : View) : Nat := view.window.columnCount

/-- Whether the view shows no cell. -/
def isEmpty (view : View) : Bool := view.rowCount == 0 || view.columnCount == 0

/-- The text of a cell, empty outside of the window. -/
def cell (view : View) (row column : Nat) : String :=
  if row < view.rowCount ∧ column < view.columnCount then
    view.storage.cell (view.window.rowOffset + row) (view.window.columnOffset + column)
  else ""

/-- The cells of a row; none outside of the window. -/
def row (view : View) (row : Nat) : List String :=
  if row < view.rowCount then (List.range view.columnCount).map (view.cell row) else []

/-- The cells of a column; none outside of the window. -/
def column (view : View) (column : Nat) : List String :=
  if column < view.columnCount then
    (List.range view.rowCount).map fun row => view.cell row column
  else []

/-- A copy of the cells the view shows. -/
def copy (view : View) : Grid :=
  Grid.ofRows ((List.range view.rowCount).map view.row)

/-- A read-only view of some of the rows. -/
def sliceRows (view : View) (start : Int) (stop : Option Int) : View :=
  { view with window := (view.window.sliceRows start stop).readOnly }

/-- A read-only view of some of the columns. -/
def sliceColumns (view : View) (start : Int) (stop : Option Int) : View :=
  { view with window := (view.window.sliceColumns start stop).readOnly }

/-- A view of some of the rows with the same right to write. -/
def sliceRowsWritable (view : View) (start : Int) (stop : Option Int) : View :=
  { view with window := view.window.sliceRows start stop }

/-- A view of some of the columns with the same right to write. -/
def sliceColumnsWritable (view : View) (start : Int) (stop : Option Int) : View :=
  { view with window := view.window.sliceColumns start stop }

/-- Write a cell through to the storage. A position outside of the window changes
nothing; a read-only view refuses. -/
def set (view : View) (row column : Nat) (text : String) : Except GridError View :=
  if view.window.writable then
    .ok <|
      if row < view.rowCount ∧ column < view.columnCount then
        { view with
          storage :=
            view.storage.put (view.window.rowOffset + row) (view.window.columnOffset + column) text }
      else view
  else .error .readOnlyCell

/-- Views do not let their contents be replaced. -/
def replace (_view : View) (_rows : List (List String)) : Except GridError View :=
  .error .replacedContents

/-! A view of all rows from one on. -/

@[simp] theorem rowCount_sliceRows_none (view : View) (first : Nat) :
    (view.sliceRows first none).rowCount = view.rowCount - first := by
  have range := Grid.normalizeRange_none first view.window.rowCount
  simp only [rowCount, sliceRows, Window.sliceRows, Window.readOnly, range]
  omega

@[simp] theorem cell_sliceRows_none (view : View) (first row column : Nat) :
    (view.sliceRows first none).cell row column = view.cell (first + row) column := by
  have range := Grid.normalizeRange_none first view.window.rowCount
  have inside : row < (view.sliceRows first none).rowCount ↔ first + row < view.rowCount := by
    rw [rowCount_sliceRows_none]
    omega
  unfold cell
  by_cases within : first + row < view.rowCount ∧ column < view.columnCount
  · have start : min first view.window.rowCount = first :=
      Nat.min_eq_left (Nat.le_trans (Nat.le_add_right ..) (Nat.le_of_lt within.1))
    rw [if_pos within, if_pos ⟨inside.mpr within.1, within.2⟩]
    simp only [sliceRows, Window.sliceRows, Window.readOnly, range, start, Nat.add_assoc]
  · rw [if_neg within, if_neg fun both => within ⟨inside.mp both.1, both.2⟩]

end View

/-- The read-only view of a whole grid. -/
def Grid.view (grid : Grid) : View := View.shared (.grid grid)

end TypedSheets
