/-!
# Grids

A rectangle of text cells that owns its contents. Rows are kept as lists of one
length, so a grid of `r` rows and `c` columns always has `r * c` cells.
-/

namespace TypedSheets

/-- The length of the longest row. -/
def widest {α : Type} (rows : List (List α)) : Nat :=
  rows.foldl (fun width row => max width row.length) 0

/-- A row brought to a width by empty cells at its end. -/
def padRow (width : Nat) (row : List String) : List String :=
  row ++ List.replicate (width - row.length) ""

/-- A rectangle of text cells. -/
structure Grid where
  columnCount : Nat
  rows : List (List String)
  rectangular : ∀ row ∈ rows, row.length = columnCount

theorem foldl_max_le {α : Type} (rows : List (List α)) (start : Nat) :
    start ≤ rows.foldl (fun width row => max width row.length) start := by
  induction rows generalizing start with
  | nil => simp
  | cons row rows ih => exact Nat.le_trans (Nat.le_max_left ..) (ih (max start row.length))

theorem length_le_foldl_max {α : Type} {rows : List (List α)} {row : List α} (member : row ∈ rows)
    (start : Nat) : row.length ≤ rows.foldl (fun width row => max width row.length) start := by
  induction rows generalizing start with
  | nil => simp at member
  | cons other rows ih =>
      rcases List.mem_cons.mp member with same | inside
      · subst same
        exact Nat.le_trans (Nat.le_max_right ..) (foldl_max_le rows _)
      · exact ih inside _

/-- No row is longer than the widest one. -/
theorem length_le_widest {α : Type} {rows : List (List α)} {row : List α} (member : row ∈ rows) :
    row.length ≤ widest rows :=
  length_le_foldl_max member 0

theorem foldl_max_le_of_forall {α : Type} {rows : List (List α)} {width : Nat}
    (bounded : ∀ row ∈ rows, row.length ≤ width) {start : Nat} (begun : start ≤ width) :
    rows.foldl (fun width row => max width row.length) start ≤ width := by
  induction rows generalizing start with
  | nil => exact begun
  | cons row rows ih =>
      have first := bounded row List.mem_cons_self
      rw [List.foldl_cons]
      exact ih (fun other member => bounded other (List.mem_cons_of_mem _ member))
        (Nat.max_le.mpr ⟨begun, first⟩)

/-- Rows of one length are as wide as this length. -/
theorem widest_eq_of_forall {α : Type} {rows : List (List α)} {width : Nat} (some : rows ≠ [])
    (uniform : ∀ row ∈ rows, row.length = width) : widest rows = width := by
  rcases List.exists_mem_of_ne_nil rows some with ⟨row, member⟩
  apply Nat.le_antisymm
  · exact foldl_max_le_of_forall (fun row member => Nat.le_of_eq (uniform row member)) (Nat.zero_le _)
  · rw [← uniform row member]
    exact length_le_widest member

@[simp] theorem length_padRow (width : Nat) (row : List String) (fits : row.length ≤ width) :
    (padRow width row).length = width := by
  simp [padRow]
  omega

namespace Grid

/-- The grid without rows and columns. -/
def empty : Grid := ⟨0, [], by simp⟩

/-- A grid of empty cells. -/
def ofSize (rowCount columnCount : Nat) : Grid :=
  ⟨columnCount, List.replicate rowCount (List.replicate columnCount ""), by
    intro row member
    rw [List.eq_of_mem_replicate member]
    simp⟩

/-- The grid of rows that need not have one length; shorter ones end in empty
cells. -/
def ofRows (rows : List (List String)) : Grid :=
  ⟨widest rows, rows.map (padRow (widest rows)), by
    intro row member
    obtain ⟨source, inside, equal⟩ := List.mem_map.mp member
    subst equal
    exact length_padRow _ _ (length_le_widest inside)⟩

/-- How many rows there are. -/
def rowCount (grid : Grid) : Nat := grid.rows.length

/-- The text of a cell, empty outside of the grid. -/
def cell (grid : Grid) (row column : Nat) : String :=
  ((grid.rows[row]?).bind (·[column]?)).getD ""

/-- Write a cell; a position outside of the grid changes nothing. -/
def set (grid : Grid) (row column : Nat) (text : String) : Grid :=
  ⟨grid.columnCount, grid.rows.modify row (·.set column text), by
    intro changed member
    obtain ⟨index, inside, equal⟩ := List.getElem_of_mem member
    rw [← equal, List.getElem_modify]
    have bound : index < grid.rows.length := by simpa using inside
    split
    · simpa using grid.rectangular _ (List.getElem_mem bound)
    · exact grid.rectangular _ (List.getElem_mem bound)⟩

@[simp] theorem columnCount_set (grid : Grid) (row column : Nat) (text : String) :
    (grid.set row column text).columnCount = grid.columnCount := rfl

@[simp] theorem rowCount_set (grid : Grid) (row column : Nat) (text : String) :
    (grid.set row column text).rowCount = grid.rowCount := by
  simp [rowCount, set]

@[simp] theorem rowCount_ofRows (rows : List (List String)) :
    (ofRows rows).rowCount = rows.length := by
  simp [rowCount, ofRows]

@[simp] theorem columnCount_ofRows (rows : List (List String)) :
    (ofRows rows).columnCount = widest rows := rfl

/-- A cell of a grid that was made of rows, empty where its row is too short. -/
@[simp] theorem cell_ofRows (rows : List (List String)) (row column : Nat) :
    (ofRows rows).cell row column = ((rows[row]?).bind (·[column]?)).getD "" := by
  simp only [cell, ofRows, List.getElem?_map]
  cases rows[row]? with
  | none => rfl
  | some source =>
      by_cases inside : column < source.length
      · simp [padRow, List.getElem?_append_left inside]
      · simp only [padRow, Option.map_some, Option.bind_some,
          List.getElem?_append_right (Nat.le_of_not_lt inside), List.getElem?_replicate,
          List.getElem?_eq_none (Nat.le_of_not_lt inside)]
        split <;> rfl

/-- A grid has as many cells as its rows times its columns. -/
theorem length_flatten (grid : Grid) :
    grid.rows.flatten.length = grid.rowCount * grid.columnCount := by
  obtain ⟨columnCount, rows, rectangular⟩ := grid
  simp only [rowCount]
  induction rows with
  | nil => simp
  | cons row rows ih =>
      have first := rectangular row (by simp)
      have rest := ih fun other member => rectangular other (by simp [member])
      simp only [List.flatten_cons, List.length_append, List.length_cons, first, rest]
      rw [Nat.add_mul]
      omega

end Grid

end TypedSheets
