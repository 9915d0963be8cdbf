import TypedSheets.Proofs.Grid.Slices

/-!
# Writing through parts of a grid

A cell written through a part of a storage is written at the place that the part shows it
from, and at no other place. Whatever is tried through parts of a storage, its size stays,
a cell holds what was last written to it, and a grid keeps a cell for each row and column.
-/

namespace TypedSheets

open Slice

/-! ## One cell of a storage -/

section Rows

variable {α : Type} {filling : α} {read : α → String}

/-- A row that was written reads the written text in its place and as before elsewhere; the
fillings in between read as nothing. -/
theorem read_putInRow (blank : read filling = "") (value : α) (row : List α)
    (column other : Nat) :
    (((Storage.putInRow filling column value row)[other]?).map read).getD ""
      = if other = column then read value else ((row[other]?).map read).getD "" := by
  simp only [Storage.putInRow, List.getElem?_set, List.length_append, List.length_replicate]
  by_cases here : column = other
  · subst here
    have long : column < row.length + (column + 1 - row.length) := by omega
    simp [long]
  · have elsewhere : other ≠ column := fun same => here same.symm
    rw [if_neg here, if_neg elsewhere]
    by_cases inside : other < row.length
    · rw [List.getElem?_append_left inside]
    · rw [List.getElem?_append_right (Nat.le_of_not_lt inside), List.getElem?_replicate,
        List.getElem?_eq_none (Nat.le_of_not_lt inside)]
      split
      · simpa using blank
      · rfl

theorem length_putInRow (value : α) (row : List α) (column : Nat) :
    (Storage.putInRow filling column value row).length = max row.length (column + 1) := by
  simp only [Storage.putInRow, List.length_set, List.length_append, List.length_replicate]
  omega

/-- Rows one of which was written read as before at all other places. -/
theorem read_modify_putInRow (blank : read filling = "") (value : α) {rows : List (List α)}
    {row : Nat} (below : row < rows.length) (column otherRow otherColumn : Nat) :
    ((((rows.modify row (Storage.putInRow filling column value))[otherRow]?).bind
        (·[otherColumn]?)).map read).getD ""
      = if otherRow = row ∧ otherColumn = column then read value
        else (((rows[otherRow]?).bind (·[otherColumn]?)).map read).getD "" := by
  rw [List.getElem?_modify]
  by_cases here : row = otherRow
  · subst here
    have cells := read_putInRow blank value rows[row] column otherColumn
    simp only [List.getElem?_eq_getElem below, Option.bind_some, true_and]
    simpa using cells
  · have elsewhere : otherRow ≠ row := fun same => here same.symm
    simp [here, elsewhere]

/-- Rows do not become wider when a cell is written that the widest row reaches. -/
theorem widest_modify_putInRow (value : α) {rows : List (List α)} {column : Nat}
    (inside : column < widest rows) (row : Nat) :
    widest (rows.modify row (Storage.putInRow filling column value)) = widest rows := by
  apply Nat.le_antisymm
  · apply foldl_max_le_of_forall _ (Nat.zero_le _)
    intro changed member
    rcases List.getElem_of_mem member with ⟨index, bound, rfl⟩
    have before : index < rows.length := by simpa using bound
    have fits := length_le_widest (List.getElem_mem before)
    rw [List.getElem_modify]
    split
    · rw [length_putInRow]
      omega
    · exact fits
  · apply foldl_max_le_of_forall _ (Nat.zero_le _)
    intro present member
    rcases List.getElem_of_mem member with ⟨index, bound, rfl⟩
    have after : index < (rows.modify row (Storage.putInRow filling column value)).length := by
      simpa using bound
    have fits := length_le_widest (List.getElem_mem after)
    rw [List.getElem_modify] at fits
    split at fits
    · rw [length_putInRow] at fits
      omega
    · exact fits

end Rows

/-! ## Cells in their order -/

section Uniform

variable {α : Type} {rows : List (List α)} {width : Nat}

/-- The cells of a later row lie behind the first row. -/
theorem place_succ {first : List α} (sized : first.length = width) (row column : Nat) :
    first.length ≤ (row + 1) * width + column
      ∧ (row + 1) * width + column - first.length = row * width + column := by
  rw [Nat.succ_mul]
  omega

/-- Rows of one length hold a cell at the row times the length plus the column. -/
theorem getElem?_flatten_of_uniform (uniform : ∀ row ∈ rows, row.length = width) (row : Nat)
    {column : Nat} (inside : column < width) :
    rows.flatten[row * width + column]? = (rows[row]?).bind (·[column]?) := by
  induction rows generalizing row with
  | nil => simp
  | cons first rows ih =>
      have sized := uniform first List.mem_cons_self
      have others := ih fun other member => uniform other (List.mem_cons_of_mem _ member)
      rw [List.flatten_cons]
      cases row with
      | zero =>
          rw [List.getElem?_append_left (by omega)]
          simp
      | succ row =>
          rcases place_succ sized row column with ⟨after, place⟩
          rw [List.getElem?_append_right after, place, others]
          rfl

/-- Writing a cell of rows of one length writes one cell of all of them. -/
theorem flatten_modify_set (uniform : ∀ row ∈ rows, row.length = width) (row : Nat)
    {column : Nat} (inside : column < width) (value : α) :
    (rows.modify row (·.set column value)).flatten
      = rows.flatten.set (row * width + column) value := by
  induction rows generalizing row with
  | nil => simp
  | cons first rows ih =>
      have sized := uniform first List.mem_cons_self
      have others := ih fun other member => uniform other (List.mem_cons_of_mem _ member)
      rw [List.flatten_cons]
      cases row with
      | zero =>
          rw [List.modify_zero_cons, List.flatten_cons, List.set_append_left _ _ (by omega),
            Nat.zero_mul, Nat.zero_add]
      | succ row =>
          rcases place_succ sized row column with ⟨after, place⟩
          rw [List.modify_succ_cons, List.flatten_cons, List.set_append_right _ _ after, place, others]

end Uniform

namespace Grid

/-- The cells row by row. -/
def cells (grid : Grid) : List String := grid.rows.flatten

@[simp] theorem length_cells (grid : Grid) :
    grid.cells.length = grid.rowCount * grid.columnCount :=
  grid.length_flatten

/-- Where the cell of a row and a column is among all cells. -/
def place (grid : Grid) (row column : Nat) : Nat := row * grid.columnCount + column

theorem getElem?_cells (grid : Grid) {row column : Nat} (below : row < grid.rowCount)
    (inside : column < grid.columnCount) :
    grid.cells[grid.place row column]? = some (grid.cell row column) := by
  have width := grid.rectangular _ (List.getElem_mem below)
  rw [cells, place, getElem?_flatten_of_uniform grid.rectangular row inside, cell,
    List.getElem?_eq_getElem below, Option.bind_some, List.getElem?_eq_getElem (by omega)]
  rfl

theorem cells_set (grid : Grid) (row : Nat) {column : Nat} (inside : column < grid.columnCount)
    (text : String) :
    (grid.set row column text).cells = grid.cells.set (grid.place row column) text :=
  flatten_modify_set grid.rectangular row inside text

theorem cell_set (grid : Grid) {row column : Nat} (below : row < grid.rowCount)
    (inside : column < grid.columnCount) (text : String) (otherRow otherColumn : Nat) :
    (grid.set row column text).cell otherRow otherColumn
      = if otherRow = row ∧ otherColumn = column then text else grid.cell otherRow otherColumn := by
  have width := grid.rectangular _ (List.getElem_mem below)
  simp only [cell, set, List.getElem?_modify]
  by_cases here : row = otherRow
  · subst here
    have reaches : column < grid.rows[row].length := by omega
    have written : (grid.rows[row].set column text)[otherColumn]?
        = if otherColumn = column then some text else grid.rows[row][otherColumn]? := by
      rw [List.getElem?_set]
      by_cases same : column = otherColumn
      · subst same
        simp [reaches]
      · have different : otherColumn ≠ column := fun equal => same equal.symm
        simp [same, different]
    rw [List.getElem?_eq_getElem below]
    simp only [↓reduceIte, Option.map_eq_map, Option.map_some, Option.bind_some, true_and, written]
    split <;> rfl
  · have elsewhere : otherRow ≠ row := fun same => here same.symm
    simp [here, elsewhere]

end Grid

namespace Storage

/-- Writing a cell changes what is read in its place and nowhere else. -/
theorem cell_put {storage : Storage} {row column : Nat} (below : row < storage.rowCount)
    (inside : column < storage.columnCount) (text : String) (otherRow otherColumn : Nat) :
    (storage.put row column text).cell otherRow otherColumn
      = if otherRow = row ∧ otherColumn = column then text
        else storage.cell otherRow otherColumn := by
  cases storage with
  | grid owned => exact owned.cell_set below inside text otherRow otherColumn
  | texts rows =>
      have blank : id "" = "" := rfl
      have reads := read_modify_putInRow blank text below column otherRow otherColumn
      simpa [put, cell] using reads
  | values rows =>
      have blank : Json.cellText .null = "" := rfl
      exact read_modify_putInRow blank (.string text) below column otherRow otherColumn

theorem extent_put {storage : Storage} (row : Nat) {column : Nat}
    (inside : column < storage.columnCount) (text : String) (axis : Axis) :
    (storage.put row column text).extent axis = storage.extent axis := by
  cases axis with
  | rows => exact rowCount_put storage row column text
  | columns =>
      cases storage with
      | grid owned => rfl
      | texts rows => exact widest_modify_putInRow _ inside row
      | values rows => exact widest_modify_putInRow _ inside row

end Storage

/-! ## One attempt -/

/-- What a view is asked for that is to change its contents. -/
inductive Change where
  | cell (row column : Nat) (text : String)
  | contents (rows : List (List String))

/-- An attempt to change a storage through a part of it. -/
structure Attempt where
  writable : Bool
  slices : List Slice
  change : Change

/-- A text and the place where it is written. -/
structure Write where
  row : Nat
  column : Nat
  text : String

namespace Attempt

/-- The view through which a storage is to be changed. -/
def view (attempt : Attempt) (storage : Storage) : View :=
  (View.whole storage attempt.writable).slices attempt.slices

/-- What a view answers to an attempt. -/
def answer (attempt : Attempt) (view : View) : Except GridError View :=
  match attempt.change with
  | .cell row column text => view.set row column text
  | .contents rows => view.replace rows

/-- Whether an attempt succeeds, and the storage after it. -/
def run (attempt : Attempt) (storage : Storage) : Except GridError Unit × Storage :=
  match attempt.answer (attempt.view storage) with
  | .ok view => (.ok (), view.storage)
  | .error error => (.error error, storage)

/-- Whether the view and all its parts give the right to write. -/
def permitted (attempt : Attempt) : Bool :=
  attempt.writable && attempt.slices.all fun slice => slice.writesThrough

/-- How far the part extends along an axis. -/
def extent (attempt : Attempt) (storage : Storage) (axis : Axis) : Nat :=
  remaining (storage.extent axis) (along axis attempt.slices)

/-- Where the part shows a position of an axis from. -/
def source (attempt : Attempt) (storage : Storage) (axis : Axis) (position : Nat) : Nat :=
  (starts (storage.extent axis) (along axis attempt.slices)).sum + position

/-- What an attempt writes into a storage, if it writes anything. -/
def write? (attempt : Attempt) (storage : Storage) : Option Write :=
  match attempt.change with
  | .cell row column text =>
      if attempt.permitted = true ∧ row < attempt.extent storage .rows
          ∧ column < attempt.extent storage .columns then
        some ⟨attempt.source storage .rows row, attempt.source storage .columns column, text⟩
      else none
  | .contents _ => none

end Attempt

/-- Whether a storage after a write differs from the one before it in the written cell
alone. -/
structure WritesOnly (storage : Storage) (write : Write) (after : Storage) : Prop where
  /-- The place is one of the storage. -/
  below : write.row < storage.rowCount
  inside : write.column < storage.columnCount
  written : after.cell write.row write.column = write.text
  others : ∀ row column, (row, column) ≠ (write.row, write.column) →
    after.cell row column = storage.cell row column
  extent : ∀ axis, after.extent axis = storage.extent axis

namespace Attempt

/-- The ways in which an attempt to change a storage ends. -/
inductive Ends (attempt : Attempt) (storage : Storage) : Except GridError Unit × Storage → Prop where
  | written (row column : Nat) (text : String) (asks : attempt.change = .cell row column text)
      (permitted : attempt.permitted = true)
      (below : row < attempt.extent storage .rows)
      (inside : column < attempt.extent storage .columns)
      (after : Storage)
      (only : WritesOnly storage
        ⟨attempt.source storage .rows row, attempt.source storage .columns column, text⟩ after) :
      Ends attempt storage (.ok (), after)
  | ignored (row column : Nat) (text : String) (asks : attempt.change = .cell row column text)
      (permitted : attempt.permitted = true)
      (outside : ¬(row < attempt.extent storage .rows ∧ column < attempt.extent storage .columns)) :
      Ends attempt storage (.ok (), storage)
  | readOnly (row column : Nat) (text : String) (asks : attempt.change = .cell row column text)
      (refused : attempt.permitted = false) :
      Ends attempt storage (.error .readOnlyCell, storage)
  | kept (rows : List (List String)) (asks : attempt.change = .contents rows) :
      Ends attempt storage (.error .replacedContents, storage)

section View

variable (attempt : Attempt) (storage : Storage)

theorem storage_view : (attempt.view storage).storage = storage :=
  View.storage_slices _ _

theorem writable_view : (attempt.view storage).window.writable = attempt.permitted :=
  View.writable_slices _ _

theorem extent_view (axis : Axis) :
    (attempt.view storage).window.extent axis = attempt.extent storage axis := by
  rw [view, View.extent_slices]
  cases axis <;> rfl

theorem offset_view (axis : Axis) (position : Nat) :
    (attempt.view storage).window.offset axis + position = attempt.source storage axis position := by
  rw [view, View.offset_slices, source]
  cases axis <;> exact congrArg (· + position) (Nat.zero_add _)

/-- A position of the part is shown from a position of the storage. -/
theorem source_lt {axis : Axis} {position : Nat} (shown : position < attempt.extent storage axis) :
    attempt.source storage axis position < storage.extent axis := by
  have bound := sum_starts_add_remaining_le (storage.extent axis) (along axis attempt.slices)
  rw [extent] at shown
  rw [source]
  omega

end View

variable {attempt : Attempt} {storage : Storage}

/-- The place where an attempt writes is one of the storage. -/
theorem inside_of_write? {write : Write} (writes : attempt.write? storage = some write) :
    write.row < storage.rowCount ∧ write.column < storage.columnCount := by
  rw [write?] at writes
  split at writes
  · split at writes
    · next shown =>
        obtain rfl := Option.some.inj writes
        exact ⟨attempt.source_lt storage shown.2.1, attempt.source_lt storage shown.2.2⟩
    · cases writes
  · cases writes

end Attempt

/-- A storage after a write. -/
def Storage.apply (storage : Storage) (write : Write) : Storage :=
  storage.put write.row write.column write.text

theorem writesOnly_apply {storage : Storage} {write : Write}
    (place : write.row < storage.rowCount ∧ write.column < storage.columnCount) :
    WritesOnly storage write (storage.apply write) where
  below := place.1
  inside := place.2
  written := by
    rw [Storage.apply, Storage.cell_put place.1 place.2, if_pos ⟨rfl, rfl⟩]
  others := by
    intro row column different
    rw [Storage.apply, Storage.cell_put place.1 place.2, if_neg]
    rintro ⟨rfl, rfl⟩
    exact different rfl
  extent := Storage.extent_put _ place.2 _

namespace Attempt

variable {attempt : Attempt} {storage : Storage}

/-- An attempt at a cell fails where the right to write is missing, and writes where the
part shows the cell. -/
theorem run_cell {row column : Nat} {text : String} (asks : attempt.change = .cell row column text) :
    attempt.run storage
      = if attempt.permitted then (.ok (), (attempt.write? storage).elim storage storage.apply)
        else (.error .readOnlyCell, storage) := by
  simp only [run, answer, asks, View.set, writable_view]
  cases permitted : attempt.permitted with
  | false => rfl
  | true =>
      have rowCount : (attempt.view storage).rowCount = attempt.extent storage .rows :=
        attempt.extent_view storage .rows
      have columnCount : (attempt.view storage).columnCount = attempt.extent storage .columns :=
        attempt.extent_view storage .columns
      have rowPlace : (attempt.view storage).window.rowOffset + row
          = attempt.source storage .rows row := attempt.offset_view storage .rows row
      have columnPlace : (attempt.view storage).window.columnOffset + column
          = attempt.source storage .columns column := attempt.offset_view storage .columns column
      simp only [↓reduceIte, write?, asks, permitted, true_and, rowCount, columnCount, rowPlace,
        columnPlace, storage_view]
      split
      · rfl
      · simp [storage_view]

theorem run_contents {rows : List (List String)} (asks : attempt.change = .contents rows) :
    attempt.run storage = (.error .replacedContents, storage) := by
  simp [run, answer, asks, View.replace]

/-- Every attempt ends in one of the ways. -/
theorem ends_run (attempt : Attempt) (storage : Storage) :
    attempt.Ends storage (attempt.run storage) := by
  cases asks : attempt.change with
  | contents rows =>
      rw [run_contents asks]
      exact .kept rows asks
  | cell row column text =>
      rw [run_cell asks]
      cases permitted : attempt.permitted with
      | false => exact .readOnly row column text asks permitted
      | true =>
          rw [if_pos rfl, write?, asks]
          simp only [permitted, true_and]
          split
          · next shown =>
              have place := And.intro (attempt.source_lt storage shown.1)
                (attempt.source_lt storage shown.2)
              exact .written row column text asks permitted shown.1 shown.2 _ (writesOnly_apply place)
          · next outside => exact .ignored row column text asks permitted outside

/-- What an attempt leaves of a storage. -/
theorem snd_run (attempt : Attempt) (storage : Storage) :
    (attempt.run storage).2 = (attempt.write? storage).elim storage storage.apply := by
  cases asks : attempt.change with
  | contents rows =>
      rw [run_contents asks, write?, asks]
      rfl
  | cell row column text =>
      rw [run_cell asks]
      cases permitted : attempt.permitted with
      | true => rfl
      | false =>
          rw [write?, asks]
          simp [permitted]

section Size

variable {left right : Storage}

/-- Where a part is depends on the size of the storage alone. -/
theorem extent_congr (attempt : Attempt) (same : ∀ axis, left.extent axis = right.extent axis) :
    attempt.extent left = attempt.extent right := by
  funext axis
  rw [extent, extent, same]

theorem source_congr (attempt : Attempt) (same : ∀ axis, left.extent axis = right.extent axis) :
    attempt.source left = attempt.source right := by
  funext axis position
  rw [source, source, same]

theorem window_congr (attempt : Attempt) (same : ∀ axis, left.extent axis = right.extent axis) :
    (attempt.view left).window = (attempt.view right).window := by
  apply Window.eq_of_axes
  · intro axis
    rw [← Nat.add_zero ((attempt.view left).window.offset axis),
      ← Nat.add_zero ((attempt.view right).window.offset axis), offset_view, offset_view,
      attempt.source_congr same]
  · intro axis
    rw [extent_view, extent_view, attempt.extent_congr same]
  · rw [writable_view, writable_view]

theorem write?_congr (attempt : Attempt) (same : ∀ axis, left.extent axis = right.extent axis) :
    attempt.write? left = attempt.write? right := by
  rw [write?, write?, attempt.extent_congr same, attempt.source_congr same]

end Size

end Attempt

/-! ## Many attempts -/

/-- A storage after some attempts to change it, one after the other. -/
def Storage.attemptAll (storage : Storage) (attempts : List Attempt) : Storage :=
  attempts.foldl (fun storage attempt => (attempt.run storage).2) storage

/-- The text last written to a place. -/
def lastWritten? (writes : List Write) (row column : Nat) : Option String :=
  ((writes.filter fun write => write.row = row ∧ write.column = column).getLast?).map Write.text

/-- What some writes leave of a storage. -/
structure Written (storage : Storage) (writes : List Write) (after : Storage) : Prop where
  extent : ∀ axis, after.extent axis = storage.extent axis
  cell : ∀ row column,
    after.cell row column = (lastWritten? writes row column).getD (storage.cell row column)
  /-- A part that was opened before the writes is the one that is opened after them. -/
  window : ∀ attempt : Attempt, (attempt.view after).window = (attempt.view storage).window
  /-- A grid stays one, with a cell for each row and column. -/
  grid : ∀ owned, storage = .grid owned → ∃ left, after = .grid left
    ∧ left.cells.length = left.rowCount * left.columnCount
    ∧ left.cells = writes.foldl
        (fun cells write => cells.set (owned.place write.row write.column) write.text) owned.cells
    ∧ ∀ row column, row < left.rowCount → column < left.columnCount →
        left.cells[left.place row column]? = some (left.cell row column)

theorem lastWritten?_cons (write : Write) (writes : List Write) (row column : Nat) (held : String) :
    (lastWritten? (write :: writes) row column).getD held
      = (lastWritten? writes row column).getD
          (if row = write.row ∧ column = write.column then write.text else held) := by
  rw [lastWritten?, List.filter_cons]
  by_cases here : row = write.row ∧ column = write.column
  · rcases here with ⟨rfl, rfl⟩
    rw [if_pos (by simp), if_pos ⟨rfl, rfl⟩, List.getLast?_cons, lastWritten?]
    cases (writes.filter fun other => other.row = write.row ∧ other.column = write.column).getLast? with
    | none => rfl
    | some last => rfl
  · have elsewhere : ¬(write.row = row ∧ write.column = column) := fun same =>
      here ⟨same.1.symm, same.2.symm⟩
    rw [if_neg (by simpa using elsewhere), if_neg here, lastWritten?]

/-- Writes at places of a storage keep its size, and a cell holds what was last written to
it. -/
theorem written_foldl_apply {storage : Storage} {writes : List Write}
    (places : ∀ write ∈ writes,
      write.row < storage.rowCount ∧ write.column < storage.columnCount) :
    Written storage writes (writes.foldl Storage.apply storage) := by
  induction writes generalizing storage with
  | nil =>
      refine ⟨fun _ => rfl, fun _ _ => rfl, fun _ => rfl, ?_⟩
      rintro owned rfl
      exact ⟨owned, rfl, owned.length_cells, rfl, fun _ _ => owned.getElem?_cells⟩
  | cons write writes ih =>
      rcases List.forall_mem_cons.mp places with ⟨place, others⟩
      have only := writesOnly_apply place
      have rowCount : (storage.apply write).rowCount = storage.rowCount := only.extent .rows
      have columnCount : (storage.apply write).columnCount = storage.columnCount :=
        only.extent .columns
      have rest : Written (storage.apply write) writes (writes.foldl Storage.apply (storage.apply write)) := by
        apply ih
        rw [rowCount, columnCount]
        exact others
      rw [List.foldl_cons]
      refine ⟨?_, ?_, ?_, ?_⟩
      · intro axis
        rw [rest.extent, only.extent]
      · intro row column
        rw [rest.cell, lastWritten?_cons, Storage.apply, Storage.cell_put place.1 place.2]
      · intro attempt
        rw [rest.window, attempt.window_congr only.extent]
      · rintro owned rfl
        rcases rest.grid _ rfl with ⟨left, same, sized, cells, placed⟩
        refine ⟨left, same, sized, ?_, placed⟩
        rw [cells, List.foldl_cons, owned.cells_set write.row place.2]
        rfl

theorem Storage.attemptAll_eq (storage : Storage) (attempts : List Attempt) :
    storage.attemptAll attempts
      = (attempts.filterMap fun attempt => attempt.write? storage).foldl Storage.apply storage := by
  -- The size never changes, so each attempt writes where it would have written at first.
  have fixed : ∀ current : Storage, (∀ axis, current.extent axis = storage.extent axis) →
      current.attemptAll attempts
        = (attempts.filterMap fun attempt => attempt.write? storage).foldl Storage.apply current := by
    induction attempts with
    | nil => exact fun _ _ => rfl
    | cons attempt attempts ih =>
        intro current sized
        have first := attempt.snd_run current
        rw [attempt.write?_congr sized] at first
        rw [Storage.attemptAll, List.foldl_cons, List.filterMap_cons]
        cases writes : attempt.write? storage with
        | none =>
            rw [writes] at first
            rw [first]
            exact ih current sized
        | some write =>
            rw [writes] at first
            have place := Attempt.inside_of_write? ((attempt.write?_congr sized).trans writes)
            rw [first, List.foldl_cons]
            apply ih
            intro axis
            exact ((writesOnly_apply place).extent axis).trans (sized axis)
  exact fixed storage fun _ => rfl

/-- An attempt to change a storage through a part of it writes the one cell that the part
shows, or nothing; any number of attempts leave every cell as it was last written. -/
theorem attempt_writes_one_cell (storage : Storage) (attempt : Attempt) (attempts : List Attempt) :
    attempt.Ends storage (attempt.run storage)
      ∧ Written storage (attempts.filterMap fun attempt => attempt.write? storage)
          (storage.attemptAll attempts) := by
  refine ⟨attempt.ends_run storage, ?_⟩
  rw [Storage.attemptAll_eq]
  apply written_foldl_apply
  intro write member
  rcases List.mem_filterMap.mp member with ⟨_, _, writes⟩
  exact Attempt.inside_of_write? writes

/-- A short row grows up to the cell that is written. -/
example : ((Attempt.mk true [⟨.columns, -1, none, true⟩] (.cell 0 0 "x")).run
    (.texts [["a"], ["b", "c", "d"]])).2 = .texts [["a", "", "x"], ["b", "c", "d"]] := rfl

end TypedSheets
