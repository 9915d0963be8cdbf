import TypedSheets.Grid.View

/-!
# Slices

Requests for a part of a view, along one axis each. They are followed one after the
other, each within what the ones before it have left. A grid answers the first one
itself, with a window on its own cells.
-/

namespace TypedSheets

/-- The two directions of a grid. -/
inductive Axis where
  | rows
  | columns
deriving DecidableEq

/-- A request for a part of a view. -/
structure Slice where
  axis : Axis
  start : Int
  stop : Option Int
  /-- Whether the part keeps the right to write. -/
  writesThrough : Bool
deriving DecidableEq

namespace View

/-- The view of a whole storage, with or without the right to write. -/
def whole (storage : Storage) (writable : Bool) : View :=
  ⟨storage, Window.whole storage writable⟩

/-- The part of a view that a slice asks for. -/
def slice (view : View) (slice : Slice) : View :=
  match slice.axis, slice.writesThrough with
  | .rows, false => view.sliceRows slice.start slice.stop
  | .rows, true => view.sliceRowsWritable slice.start slice.stop
  | .columns, false => view.sliceColumns slice.start slice.stop
  | .columns, true => view.sliceColumnsWritable slice.start slice.stop

/-- The part of a view that is left after some slices. -/
def slices (view : View) (slices : List Slice) : View := slices.foldl View.slice view

end View

namespace Grid

/-- A read-only view of some of the rows of a grid. -/
def sliceRows (grid : Grid) (start : Int) (stop : Option Int) : View :=
  let (first, last) := normalizeRange start stop grid.rowCount
  ⟨.grid grid, ⟨first, 0, last - first, grid.columnCount, false⟩⟩

/-- A read-only view of some of the columns of a grid. -/
def sliceColumns (grid : Grid) (start : Int) (stop : Option Int) : View :=
  let (first, last) := normalizeRange start stop grid.columnCount
  ⟨.grid grid, ⟨0, first, grid.rowCount, last - first, false⟩⟩

/-- The part of a grid that a slice asks for; the grid itself never gives the right to
write. -/
def slice (grid : Grid) (slice : Slice) : View :=
  match slice.axis with
  | .rows => grid.sliceRows slice.start slice.stop
  | .columns => grid.sliceColumns slice.start slice.stop

/-- The part of a grid that is left after some slices. -/
def slices (grid : Grid) : List Slice → View
  | [] => grid.view
  | first :: others => (grid.slice first).slices others

end Grid

end TypedSheets
