import Mathlib
import TypedSheets.Grid.Slice
import TypedSheets.Proofs.Grid.Delimited

/-!
# Parts of a grid

Slices narrow the two axes of a view independently: along each axis the starts of its
slices add up, and what is left of the axis never reaches beyond it. So a part of a
storage shows cells of this storage and nothing else, slices of different axes may change
places, and it does not matter how the cells are stored or when they are copied.
-/

namespace TypedSheets

/-! ## One axis -/

namespace Slice

/-- How many positions of a dimension a slice selects. -/
def extent (slice : Slice) (size : Nat) : Nat :=
  (Grid.normalizeRange slice.start slice.stop size).2
    - (Grid.normalizeRange slice.start slice.stop size).1

/-- How many positions of a dimension are left after some slices. -/
def remaining (size : Nat) : List Slice → Nat
  | [] => size
  | slice :: slices => remaining (slice.extent size) slices

/-- The positions at which slices start, each in what the ones before it have left. -/
def starts (size : Nat) : List Slice → List Nat
  | [] => []
  | slice :: slices => Grid.normalizeIndex slice.start size :: starts (slice.extent size) slices

/-- The slices of an axis, in their order. -/
def along (axis : Axis) (slices : List Slice) : List Slice :=
  slices.filter fun slice => slice.axis = axis

/-- A range is where its start is, also where it is empty. -/
theorem fst_normalizeRange (start : Int) (stop : Option Int) (size : Nat) :
    (Grid.normalizeRange start stop size).1 = Grid.normalizeIndex start size := by
  cases stop with
  | none => simp only [Grid.normalizeRange]; split <;> rfl
  | some stop => simp only [Grid.normalizeRange]; split <;> rfl

theorem start_add_extent_le (slice : Slice) (size : Nat) :
    Grid.normalizeIndex slice.start size + slice.extent size ≤ size := by
  have range := Grid.normalizeRange_le slice.start slice.stop size
  rw [fst_normalizeRange] at range
  rw [extent, fst_normalizeRange]
  omega

/-- Slices of a dimension never leave it. -/
theorem sum_starts_add_remaining_le (size : Nat) (slices : List Slice) :
    (starts size slices).sum + remaining size slices ≤ size := by
  induction slices generalizing size with
  | nil => simp [starts, remaining]
  | cons slice slices ih =>
      have first := slice.start_add_extent_le size
      have others := ih (slice.extent size)
      rw [starts, remaining, List.sum_cons]
      omega

/-- Nothing is left of an empty dimension. -/
@[simp] theorem remaining_zero (slices : List Slice) : remaining 0 slices = 0 := by
  have bound := sum_starts_add_remaining_le 0 slices
  omega

end Slice

open Slice

namespace Window

/-- Where a window begins along an axis. -/
def offset (window : Window) : Axis → Nat
  | .rows => window.rowOffset
  | .columns => window.columnOffset

/-- How far a window extends along an axis. -/
def extent (window : Window) : Axis → Nat
  | .rows => window.rowCount
  | .columns => window.columnCount

/-- A window is its two axes and the right to write. -/
theorem eq_of_axes {left right : Window} (offsets : ∀ axis, left.offset axis = right.offset axis)
    (extents : ∀ axis, left.extent axis = right.extent axis)
    (writable : left.writable = right.writable) : left = right := by
  rcases left with ⟨leftRow, leftColumn, leftRows, leftColumns, leftWritable⟩
  rcases right with ⟨rightRow, rightColumn, rightRows, rightColumns, rightWritable⟩
  obtain rfl : leftRow = rightRow := offsets .rows
  obtain rfl : leftColumn = rightColumn := offsets .columns
  obtain rfl : leftRows = rightRows := extents .rows
  obtain rfl : leftColumns = rightColumns := extents .columns
  obtain rfl : leftWritable = rightWritable := writable
  rfl

end Window

/-- How many positions a storage has along an axis. -/
def Storage.extent (storage : Storage) : Axis → Nat
  | .rows => storage.rowCount
  | .columns => storage.columnCount

/-! ## Views -/

namespace View

@[simp] theorem storage_slice (view : View) (slice : Slice) :
    (view.slice slice).storage = view.storage := by
  rcases slice with ⟨axis, start, stop, through⟩
  cases axis <;> cases through <;> rfl

theorem writable_slice (view : View) (slice : Slice) :
    (view.slice slice).window.writable = (view.window.writable && slice.writesThrough) := by
  rcases slice with ⟨axis, start, stop, through⟩
  cases axis <;> cases through <;> simp [View.slice, sliceRows, sliceColumns, sliceRowsWritable,
    sliceColumnsWritable, Window.sliceRows, Window.sliceColumns, Window.readOnly]

/-- A slice narrows its own axis. -/
theorem extent_slice (view : View) (slice : Slice) (axis : Axis) :
    (view.slice slice).window.extent axis
      = if slice.axis = axis then slice.extent (view.window.extent axis)
        else view.window.extent axis := by
  rcases slice with ⟨own, start, stop, through⟩
  cases own <;> cases through <;> cases axis <;> rfl

/-- A slice moves the window along its own axis. -/
theorem offset_slice (view : View) (slice : Slice) (axis : Axis) :
    (view.slice slice).window.offset axis
      = view.window.offset axis
        + if slice.axis = axis then Grid.normalizeIndex slice.start (view.window.extent axis)
          else 0 := by
  rcases slice with ⟨own, start, stop, through⟩
  simp only [← fst_normalizeRange start stop]
  cases own <;> cases through <;> cases axis <;> rfl

@[simp] theorem storage_slices (view : View) (slices : List Slice) :
    (view.slices slices).storage = view.storage := by
  induction slices generalizing view with
  | nil => rfl
  | cons slice slices ih => exact (ih _).trans (storage_slice view slice)

theorem writable_slices (view : View) (slices : List Slice) :
    (view.slices slices).window.writable
      = (view.window.writable && slices.all fun slice => slice.writesThrough) := by
  induction slices generalizing view with
  | nil => simp [slices]
  | cons slice slices ih =>
      have others := ih (view.slice slice)
      rw [writable_slice, Bool.and_assoc] at others
      rw [List.all_cons]
      exact others

theorem extent_slices (view : View) (slices : List Slice) (axis : Axis) :
    (view.slices slices).window.extent axis
      = remaining (view.window.extent axis) (along axis slices) := by
  induction slices generalizing view with
  | nil => rfl
  | cons slice slices ih =>
      have others := ih (view.slice slice)
      rw [extent_slice] at others
      rw [along, List.filter_cons]
      by_cases own : slice.axis = axis
      · rw [if_pos own] at others
        rw [if_pos (by simpa using own), remaining]
        exact others
      · rw [if_neg own] at others
        rw [if_neg (by simpa using own)]
        exact others

/-- The starts of slices add up. -/
theorem offset_slices (view : View) (slices : List Slice) (axis : Axis) :
    (view.slices slices).window.offset axis
      = view.window.offset axis + (starts (view.window.extent axis) (along axis slices)).sum := by
  induction slices generalizing view with
  | nil => rfl
  | cons slice slices ih =>
      have others := ih (view.slice slice)
      rw [extent_slice, offset_slice] at others
      rw [along, List.filter_cons]
      by_cases own : slice.axis = axis
      · rw [if_pos own, if_pos own, Nat.add_assoc] at others
        rw [if_pos (by simpa using own), starts, List.sum_cons]
        exact others
      · rw [if_neg own, if_neg own, Nat.add_zero] at others
        rw [if_neg (by simpa using own)]
        exact others

/-- What slices leave of a view depends on the slices of each axis alone. -/
theorem slices_eq_of_along (view : View) {left right : List Slice}
    (same : ∀ axis, along axis left = along axis right)
    (rights : (left.all fun slice => slice.writesThrough)
      = right.all fun slice => slice.writesThrough) :
    view.slices left = view.slices right := by
  have windows : (view.slices left).window = (view.slices right).window := by
    apply Window.eq_of_axes
    · intro axis
      rw [offset_slices, offset_slices, same]
    · intro axis
      rw [extent_slices, extent_slices, same]
    · rw [writable_slices, writable_slices, rights]
  have storages : (view.slices left).storage = (view.slices right).storage := by simp
  exact congrArg₂ View.mk storages windows

theorem slices_append (view : View) (earlier later : List Slice) :
    view.slices (earlier ++ later) = (view.slices earlier).slices later :=
  List.foldl_append

/-- A cell of a part is the cell of the whole at the summed starts. -/
theorem cell_slices (view : View) (slices : List Slice) {row column : Nat}
    (below : row < (view.slices slices).rowCount)
    (inside : column < (view.slices slices).columnCount) :
    (view.slices slices).cell row column
      = view.cell ((starts view.rowCount (along .rows slices)).sum + row)
          ((starts view.columnCount (along .columns slices)).sum + column) := by
  have rows := sum_starts_add_remaining_le view.rowCount (along .rows slices)
  have columns := sum_starts_add_remaining_le view.columnCount (along .columns slices)
  have rowExtent : (view.slices slices).rowCount = remaining view.rowCount (along .rows slices) :=
    extent_slices view slices .rows
  have columnExtent : (view.slices slices).columnCount
      = remaining view.columnCount (along .columns slices) := extent_slices view slices .columns
  have rowOffset : (view.slices slices).window.rowOffset
      = view.window.rowOffset + (starts view.rowCount (along .rows slices)).sum :=
    offset_slices view slices .rows
  have columnOffset : (view.slices slices).window.columnOffset
      = view.window.columnOffset + (starts view.columnCount (along .columns slices)).sum :=
    offset_slices view slices .columns
  rw [cell, if_pos ⟨below, inside⟩, cell, if_pos (by omega), storage_slices, rowOffset, columnOffset,
    Nat.add_assoc, Nat.add_assoc]

/-! ## What is shown -/

/-- Whether two views show the same. -/
structure Alike (left right : View) : Prop where
  rowCount : left.rowCount = right.rowCount
  columnCount : left.columnCount = right.columnCount
  cell : ∀ row column, left.cell row column = right.cell row column
  row : ∀ row, left.row row = right.row row
  column : ∀ column, left.column column = right.column column
  text : Delimited.write left = Delimited.write right
  copy : left.copy = right.copy

/-- Views of one size show the same when their cells are the same. -/
theorem alike_of_cell {left right : View} (rowCount : left.rowCount = right.rowCount)
    (columnCount : left.columnCount = right.columnCount)
    (cell : ∀ row column, row < left.rowCount → column < left.columnCount →
      left.cell row column = right.cell row column) : Alike left right := by
  have everywhere : ∀ row column, left.cell row column = right.cell row column := by
    intro row column
    by_cases shown : row < left.rowCount ∧ column < left.columnCount
    · exact cell row column shown.1 shown.2
    · have alsoHidden : ¬(row < right.rowCount ∧ column < right.columnCount) := by
        rwa [← rowCount, ← columnCount]
      rw [View.cell, View.cell, if_neg shown, if_neg alsoHidden]
  have row : ∀ row, left.row row = right.row row := by
    intro row
    have cells : left.cell row = right.cell row := funext (everywhere row)
    rw [View.row, View.row, rowCount, columnCount, cells]
  have column : ∀ column, left.column column = right.column column := by
    intro column
    simp only [View.column, rowCount, columnCount, everywhere]
  refine ⟨rowCount, columnCount, everywhere, row, column, ?_, ?_⟩
  · simp only [Delimited.write, rowCount, row]
  · have rows : left.row = right.row := funext row
    rw [copy, copy, rowCount, rows]

@[simp] theorem rowCount_copy (view : View) : view.copy.view.rowCount = view.rowCount := by
  change view.copy.rowCount = view.rowCount
  simp [copy]

/-- A copy has the columns of the view, if there are rows to tell how many these are. -/
theorem columnCount_copy {view : View} (rows : 0 < view.rowCount) :
    view.copy.view.columnCount = view.columnCount :=
  widest_eq_of_forall (rows_ne_nil rows) fun _ member => length_of_mem_rows member

/-- A copy has the cells of the view. -/
theorem cell_copy (view : View) {row column : Nat} (below : row < view.rowCount)
    (inside : column < view.columnCount) : view.copy.view.cell row column = view.cell row column := by
  have shown : row < view.copy.view.rowCount ∧ column < view.copy.view.columnCount := by
    rw [rowCount_copy, columnCount_copy (Nat.zero_lt_of_lt below)]
    exact ⟨below, inside⟩
  rw [cell, if_pos shown]
  change view.copy.cell (0 + row) (0 + column) = view.cell row column
  rw [Nat.zero_add, Nat.zero_add, copy, Grid.cell_ofRows]
  exact getD_getElem?_rows view row column

theorem copy_of_no_rows {view : View} (none : view.rowCount = 0) : view.copy = Grid.ofRows [] := by
  rw [copy, none]
  rfl

/-- Slicing a copy and copying the part is copying the part of the view. -/
theorem copy_slices_copy (view : View) (slices : List Slice) :
    (view.copy.view.slices slices).copy = (view.slices slices).copy := by
  have rowsOf : ∀ whole : View,
      (whole.slices slices).rowCount = remaining whole.rowCount (along .rows slices) :=
    fun whole => extent_slices whole slices .rows
  have columnsOf : ∀ whole : View,
      (whole.slices slices).columnCount = remaining whole.columnCount (along .columns slices) :=
    fun whole => extent_slices whole slices .columns
  rcases Nat.eq_zero_or_pos view.rowCount with none | rows
  · -- Without rows a copy has no columns either, but nothing of them would be shown.
    have nothing : (view.slices slices).rowCount = 0 := by
      rw [rowsOf, none, remaining_zero]
    have alsoNothing : (view.copy.view.slices slices).rowCount = 0 := by
      rw [rowsOf, rowCount_copy, none, remaining_zero]
    rw [copy_of_no_rows nothing, copy_of_no_rows alsoNothing]
  · have columns := columnCount_copy rows
    have parts : Alike (view.copy.view.slices slices) (view.slices slices) := by
      apply alike_of_cell
      · rw [rowsOf, rowsOf, rowCount_copy]
      · rw [columnsOf, columnsOf, columns]
      · intro row column below inside
        have bound := sum_starts_add_remaining_le view.rowCount (along .rows slices)
        have width := sum_starts_add_remaining_le view.columnCount (along .columns slices)
        have alsoBelow : row < (view.slices slices).rowCount := by
          rwa [rowsOf, rowCount_copy, ← rowsOf] at below
        have alsoInside : column < (view.slices slices).columnCount := by
          rwa [columnsOf, columns, ← columnsOf] at inside
        rw [cell_slices _ _ below inside, cell_slices _ _ alsoBelow alsoInside, rowCount_copy, columns]
        rw [rowsOf] at alsoBelow
        rw [columnsOf] at alsoInside
        exact cell_copy view (by omega) (by omega)
    exact parts.copy

end View

/-- A grid answers a slice as the read-only view of it does. -/
theorem Grid.slices_eq (grid : Grid) (slices : List Slice) :
    grid.slices slices = grid.view.slices slices := by
  cases slices with
  | nil => rfl
  | cons first others =>
      have same : grid.slice first = grid.view.slice first := by
        rcases first with ⟨axis, start, stop, through⟩
        cases axis <;> cases through <;>
          simp [Grid.slice, Grid.sliceRows, Grid.sliceColumns, View.slice, Grid.view, View.shared,
            View.sliceRows, View.sliceColumns, View.sliceRowsWritable, View.sliceColumnsWritable,
            Window.whole, Window.sliceRows, Window.sliceColumns, Window.readOnly,
            Storage.rowCount, Storage.columnCount]
      rw [Grid.slices, same]
      rfl

/-! ## Rows of text in a storage -/

namespace Storage

/-- The ways to store rows of text. -/
inductive Kind where
  | grid
  | texts
  | values

/-- Rows of text that need not have one length, stored in one of the ways. -/
def ofRows (rows : List (List String)) : Kind → Storage
  | .grid => .grid (Grid.ofRows rows)
  | .texts => .texts rows
  | .values => .values (rows.map (·.map Json.string))

theorem widest_map {α β : Type} (change : α → β) (rows : List (List α)) :
    widest (rows.map (·.map change)) = widest rows := by
  simp [widest, List.foldl_map]

variable (rows : List (List String)) (kind : Kind)

@[simp] theorem rowCount_ofRows : (ofRows rows kind).rowCount = rows.length := by
  cases kind <;> simp [ofRows, rowCount]

@[simp] theorem columnCount_ofRows : (ofRows rows kind).columnCount = widest rows := by
  cases kind with
  | grid => rfl
  | texts => rfl
  | values => exact widest_map Json.string rows

/-- The cells of the rows, empty where a row is too short. -/
@[simp] theorem cell_ofRows (row column : Nat) :
    (ofRows rows kind).cell row column = ((rows[row]?).bind (·[column]?)).getD "" := by
  cases kind with
  | grid => exact Grid.cell_ofRows rows row column
  | texts => rfl
  | values =>
      simp only [ofRows, cell, List.getElem?_map]
      cases rows[row]? with
      | none => rfl
      | some cells =>
          simp only [Option.map_some, Option.bind_some, List.getElem?_map]
          cases cells[column]? with
          | none => rfl
          | some text => rfl

end Storage

namespace View

/-- A cell of the view of a whole storage. -/
theorem cell_whole {storage : Storage} (writable : Bool) {row column : Nat}
    (below : row < storage.rowCount) (inside : column < storage.columnCount) :
    (whole storage writable).cell row column = storage.cell row column := by
  rw [cell, if_pos ⟨below, inside⟩]
  change storage.cell (0 + row) (0 + column) = storage.cell row column
  rw [Nat.zero_add, Nat.zero_add]

/-- The part of some rows that slices leave, in one of the ways to store them. -/
def partOf (rows : List (List String)) (writable : Bool) (slices : List Slice)
    (kind : Storage.Kind) : View :=
  (whole (Storage.ofRows rows kind) writable).slices slices

/-- What the part of a storage of rows is to the storage. -/
structure ShowsPart (rows : List (List String)) (writable : Bool) (slices : List Slice)
    (kind : Storage.Kind) : Prop where
  /-- Every other storage of the rows shows the same. -/
  alike : ∀ other, Alike (partOf rows writable slices kind) (partOf rows writable slices other)
  inside : ∀ axis, (partOf rows writable slices kind).window.offset axis
      + (partOf rows writable slices kind).window.extent axis
    ≤ (Storage.ofRows rows kind).extent axis
  rowCount : (partOf rows writable slices kind).rowCount
    = remaining rows.length (along .rows slices)
  columnCount : (partOf rows writable slices kind).columnCount
    = remaining (widest rows) (along .columns slices)
  cell : ∀ row column, row < (partOf rows writable slices kind).rowCount →
    column < (partOf rows writable slices kind).columnCount →
      (partOf rows writable slices kind).cell row column
        = (Storage.ofRows rows kind).cell ((starts rows.length (along .rows slices)).sum + row)
            ((starts (widest rows) (along .columns slices)).sum + column)
  hidden : ∀ row column, ¬(row < (partOf rows writable slices kind).rowCount
      ∧ column < (partOf rows writable slices kind).columnCount) →
    (partOf rows writable slices kind).cell row column = ""
  /-- A grid that answers the first slice itself shows the same. -/
  own : (Grid.ofRows rows).slices slices = partOf rows false slices .grid
  /-- Slices of different axes may change places. -/
  commutes : ∀ earlier first second later, slices = earlier ++ first :: second :: later →
    first.axis ≠ second.axis →
      partOf rows writable slices kind
        = partOf rows writable (earlier ++ second :: first :: later) kind
  /-- Slices of a copy make a copy of the part. -/
  copied : ∀ earlier later, slices = earlier ++ later →
    ((partOf rows writable earlier kind).copy.slices later).copy
      = (partOf rows writable slices kind).copy

section Part

variable (rows : List (List String)) (writable : Bool) (slices : List Slice) (kind : Storage.Kind)

theorem rowCount_partOf :
    (partOf rows writable slices kind).rowCount = remaining rows.length (along .rows slices) := by
  have narrowed := extent_slices (whole (Storage.ofRows rows kind) writable) slices .rows
  rw [← Storage.rowCount_ofRows rows kind]
  exact narrowed

theorem columnCount_partOf :
    (partOf rows writable slices kind).columnCount
      = remaining (widest rows) (along .columns slices) := by
  have narrowed := extent_slices (whole (Storage.ofRows rows kind) writable) slices .columns
  rw [← Storage.columnCount_ofRows rows kind]
  exact narrowed

/-- The cells of a part are those of the rows at the summed starts. -/
theorem cell_partOf {row column : Nat} (below : row < (partOf rows writable slices kind).rowCount)
    (inside : column < (partOf rows writable slices kind).columnCount) :
    (partOf rows writable slices kind).cell row column
      = (Storage.ofRows rows kind).cell ((starts rows.length (along .rows slices)).sum + row)
          ((starts (widest rows) (along .columns slices)).sum + column) := by
  have height := sum_starts_add_remaining_le rows.length (along .rows slices)
  have width := sum_starts_add_remaining_le (widest rows) (along .columns slices)
  have moved := cell_slices (whole (Storage.ofRows rows kind) writable) slices below inside
  have rowCount : (whole (Storage.ofRows rows kind) writable).rowCount = rows.length :=
    Storage.rowCount_ofRows rows kind
  have columnCount : (whole (Storage.ofRows rows kind) writable).columnCount = widest rows :=
    Storage.columnCount_ofRows rows kind
  rw [rowCount, columnCount] at moved
  rw [rowCount_partOf] at below
  rw [columnCount_partOf] at inside
  rw [partOf, moved]
  apply cell_whole
  · rw [Storage.rowCount_ofRows]
    omega
  · rw [Storage.columnCount_ofRows]
    omega

theorem alike_partOf (other : Storage.Kind) :
    Alike (partOf rows writable slices kind) (partOf rows writable slices other) := by
  have rowCounts : (partOf rows writable slices kind).rowCount
      = (partOf rows writable slices other).rowCount := by
    rw [rowCount_partOf, rowCount_partOf]
  have columnCounts : (partOf rows writable slices kind).columnCount
      = (partOf rows writable slices other).columnCount := by
    rw [columnCount_partOf, columnCount_partOf]
  apply alike_of_cell rowCounts columnCounts
  intro row column below inside
  rw [cell_partOf rows writable slices kind below inside,
    cell_partOf rows writable slices other (rowCounts ▸ below) (columnCounts ▸ inside),
    Storage.cell_ofRows, Storage.cell_ofRows]

/-- The window of a part stays inside of the storage. -/
theorem inside_partOf (axis : Axis) :
    (partOf rows writable slices kind).window.offset axis
        + (partOf rows writable slices kind).window.extent axis
      ≤ (Storage.ofRows rows kind).extent axis := by
  have offset : (whole (Storage.ofRows rows kind) writable).window.offset axis = 0 := by
    cases axis <;> rfl
  have extent : (whole (Storage.ofRows rows kind) writable).window.extent axis
      = (Storage.ofRows rows kind).extent axis := by
    cases axis <;> rfl
  rw [partOf, offset_slices, extent_slices, offset, extent, Nat.zero_add]
  exact sum_starts_add_remaining_le _ _

end Part

/-- A part of rows shows the cells at the summed starts of its slices and no others, in
whichever way the rows are stored. -/
theorem partOf_showsPart (rows : List (List String)) (writable : Bool) (slices : List Slice)
    (kind : Storage.Kind) : ShowsPart rows writable slices kind where
  alike := alike_partOf rows writable slices kind
  inside := inside_partOf rows writable slices kind
  rowCount := rowCount_partOf rows writable slices kind
  columnCount := columnCount_partOf rows writable slices kind
  cell := fun _ _ => cell_partOf rows writable slices kind
  hidden := by
    intro row column outside
    rw [View.cell, if_neg outside]
  own := Grid.slices_eq _ _
  commutes := by
    rintro earlier first second later rfl different
    apply slices_eq_of_along
    · intro axis
      simp only [along, List.filter_append, List.filter_cons]
      by_cases own : first.axis = axis
      · have other : second.axis ≠ axis := fun same => different (own.trans same.symm)
        simp [own, other]
      · simp [own]
    · simp only [List.all_append, List.all_cons]
      rw [Bool.and_left_comm first.writesThrough]
  copied := by
    rintro earlier later rfl
    rw [Grid.slices_eq, copy_slices_copy, partOf, partOf, slices_append]

/-- The last row of three, without its first column; the last cell is the one that the row
lacks. -/
example : (partOf [["a", "b", "c"], ["d"], ["e", "f"]] false
    [⟨.rows, 1, none, false⟩, ⟨.columns, -2, some 9, false⟩, ⟨.rows, -1, none, false⟩] .values).row 0
      = ["f", ""] := rfl

end View

end TypedSheets
