import TypedSheets.Proofs.Grid.Grammar
import TypedSheets.Proofs.Text.Trim

/-!
# Writing again what was read

Reading puts a line feed where a backslash and an `n` were, and writing takes a carriage return
before a line feed for part of the line end. So a text that was read is written as it was unless
a carriage return stood right before a line end in a cell, written as one or two characters or as
a backslash and an `n`: this carriage return survives the first time and is lost the second time.
-/

namespace TypedSheets

namespace Delimited

variable {characters rest : List Char} {character : Char}

/-! ## Line ends -/

theorem foldLineEnds_eq_unifyLineEnds (characters : List Char) :
    foldLineEnds characters = Text.unifyLineEnds characters := by
  fun_induction Text.unifyLineEnds characters with
  | case1 => rfl
  | case2 rest ih => simp [foldLineEnds, Text.replaceFrom, ← ih]
  | case3 character rest other ih =>
      have differs : ¬['\r', '\n'] <+: character :: rest := by
        rintro ⟨after, same⟩
        simp only [List.cons_append, List.nil_append, List.cons.injEq] at same
        exact other after same.1.symm same.2.symm
      rw [foldLineEnds, Text.replaceFrom_of_not_begins differs, ← foldLineEnds, ih]

/-- A cell is written as what its line ends are spelled as, with quotes doubled. -/
theorem escapeChars_eq_doubled (characters : List Char) :
    escapeChars characters = doubled ((foldLineEnds characters).flatMap spell) := by
  rw [foldLineEnds_eq_unifyLineEnds]
  fun_induction escapeChars characters with
  | case1 => rfl
  | case2 rest ih =>
      rw [ih, Text.unifyLineEnds_cons (by simp)]
      rfl
  | case3 rest ih =>
      rw [ih]
      rfl
  | case4 rest ih =>
      rw [ih, Text.unifyLineEnds_cons (by simp)]
      rfl
  | case5 character rest noQuote noPair noFeed ih =>
      have ordinary : ¬(character = '\r' ∧ rest.head? = some '\n') := by
        rintro ⟨same, begins⟩
        rcases List.head?_eq_some_iff.mp begins with ⟨after, split⟩
        exact noPair after same split
      have plain : spell character = [character] := if_neg noFeed
      rw [ih, Text.unifyLineEnds_cons ordinary, List.flatMap_cons, plain, List.singleton_append,
        doubled_plain noQuote]

/-- Line feeds that were read are spelled the way they were written. -/
theorem flatMap_spell_unescapeLines (characters : List Char) :
    (unescapeLines characters).flatMap spell = characters.flatMap spell := by
  fun_induction unescapeLines characters with
  | case1 => rfl
  | case2 rest ih =>
      rw [List.flatMap_cons, ih]
      rfl
  | case3 character rest _ ih => rw [List.flatMap_cons, List.flatMap_cons, ih]

theorem not_pair_prefix {first second : Char}
    (different : ∀ after, character = first → rest = second :: after → False) :
    ¬[first, second] <+: character :: rest := by
  rintro ⟨after, same⟩
  obtain ⟨begins, follows⟩ := List.cons.inj same
  exact different after begins.symm follows.symm

theorem feed_prefix_unescapeLines_iff :
    ['\n'] <+: unescapeLines characters ↔ ['\n'] <+: characters ∨ ['\\', 'n'] <+: characters := by
  fun_cases unescapeLines characters with
  | case1 => simp
  | case2 rest => simp [List.cons_prefix_cons]
  | case3 character rest different =>
      have differs := not_pair_prefix different
      simp [List.cons_prefix_cons (a := '\n'), differs]

theorem letter_prefix_of_unescapeLines (begins : ['n'] <+: unescapeLines characters) :
    ['n'] <+: characters := by
  revert begins
  fun_cases unescapeLines characters <;> simp_all [List.cons_prefix_cons]

/-- No backslash with an `n` is left after reading. -/
theorem not_escape_infix_unescapeLines (characters : List Char) :
    ¬['\\', 'n'] <:+: unescapeLines characters := by
  fun_induction unescapeLines characters with
  | case1 => simp
  | case2 rest ih => simp [List.infix_cons_iff, List.cons_prefix_cons, ih]
  | case3 character rest different ih =>
      rw [List.infix_cons_iff, not_or, List.cons_prefix_cons]
      refine ⟨?_, ih⟩
      rintro ⟨rfl, begins⟩
      rcases letter_prefix_of_unescapeLines begins with ⟨after, split⟩
      exact different after rfl split.symm

/-- A carriage return comes before a line feed after reading where it came before one of the two
ways to write it. -/
theorem pair_infix_unescapeLines_iff :
    ['\r', '\n'] <:+: unescapeLines characters
      ↔ ['\r', '\n'] <:+: characters ∨ ['\r', '\\', 'n'] <:+: characters := by
  fun_induction unescapeLines characters with
  | case1 => simp
  | case2 rest ih => simp [List.infix_cons_iff, List.cons_prefix_cons, ih]
  | case3 character rest _ ih =>
      simp only [List.infix_cons_iff, List.cons_prefix_cons (a := '\r'),
        feed_prefix_unescapeLines_iff, ih]
      tauto

theorem feed_prefix_unifyLineEnds_iff :
    ['\n'] <+: Text.unifyLineEnds characters
      ↔ ['\n'] <+: characters ∨ ['\r', '\n'] <+: characters := by
  fun_cases Text.unifyLineEnds characters with
  | case1 => simp
  | case2 rest => simp [List.cons_prefix_cons]
  | case3 character rest different =>
      have differs := not_pair_prefix different
      simp [List.cons_prefix_cons (a := '\n'), differs]

/-- A carriage return is left before a line feed where there was one before both characters of a
line end. -/
theorem pair_infix_unifyLineEnds_iff :
    ['\r', '\n'] <:+: Text.unifyLineEnds characters ↔ ['\r', '\r', '\n'] <:+: characters := by
  fun_induction Text.unifyLineEnds characters with
  | case1 => simp
  | case2 rest ih => simp [List.infix_cons_iff, List.cons_prefix_cons, ih]
  | case3 character rest different ih =>
      have differs := not_pair_prefix different
      rw [List.cons_prefix_cons] at differs
      simp only [List.infix_cons_iff, List.cons_prefix_cons (a := '\r') (b := character),
        feed_prefix_unifyLineEnds_iff, ih]
      tauto

theorem letter_prefix_unifyLineEnds_iff :
    ['n'] <+: Text.unifyLineEnds characters ↔ ['n'] <+: characters := by
  fun_cases Text.unifyLineEnds characters <;> simp [List.cons_prefix_cons]

/-- What was written as a backslash and an `n` before is kept when line ends are folded. -/
theorem escape_infix_unifyLineEnds_iff :
    ['\r', '\\', 'n'] <:+: Text.unifyLineEnds characters ↔ ['\r', '\\', 'n'] <:+: characters := by
  have follows : ∀ rest, ['\\', 'n'] <+: Text.unifyLineEnds rest ↔ ['\\', 'n'] <+: rest := by
    intro rest
    fun_cases Text.unifyLineEnds rest <;>
      simp [List.cons_prefix_cons, letter_prefix_unifyLineEnds_iff]
  fun_induction Text.unifyLineEnds characters with
  | case1 => rfl
  | case2 rest ih => simp [List.infix_cons_iff, List.cons_prefix_cons, ih]
  | case3 character rest _ ih =>
      rw [List.infix_cons_iff, List.infix_cons_iff, List.cons_prefix_cons, List.cons_prefix_cons,
        follows]
      exact or_congr_right ih

/-! ## A cell -/

/-- Whether a carriage return stands before a line end in a cell: before the two characters of
one, or before the two that are read as one. -/
def Refolds (cell : String) : Prop :=
  ['\r', '\r', '\n'] <:+: cell.toList ∨ ['\r', '\\', 'n'] <:+: cell.toList

theorem toList_returned (cell : String) :
    (returned cell).toList = unescapeLines (foldLineEnds cell.toList) := by
  rw [unescapeLines_eq_replaceFrom]
  simp [returned, Text.replaceAll, foldLineEnds]

theorem pair_infix_returned_iff (cell : String) :
    ['\r', '\n'] <:+: (returned cell).toList ↔ Refolds cell := by
  rw [toList_returned, foldLineEnds_eq_unifyLineEnds, pair_infix_unescapeLines_iff,
    pair_infix_unifyLineEnds_iff, escape_infix_unifyLineEnds_iff, Refolds]

theorem not_refolds_empty : ¬Refolds "" := by simp [Refolds]

/-- A cell that came back comes back as it is from then on, unless a line end is folded again. -/
theorem returned_returned_iff (cell : String) :
    returned (returned cell) = returned cell ↔ ¬Refolds cell := by
  have unwritten : ¬['\\', 'n'] <:+: (returned cell).toList := by
    rw [toList_returned]
    exact not_escape_infix_unescapeLines _
  rw [returned_eq_self_iff, pair_infix_returned_iff, and_iff_left unwritten]

/-- It is then written as it was. -/
theorem writeCell_returned {cell : String} (stable : ¬Refolds cell) :
    writeCell (returned cell) = writeCell cell := by
  have folded : foldLineEnds (returned cell).toList = (returned cell).toList := by
    rw [← pair_infix_returned_iff] at stable
    exact Text.replaceFrom_of_not_infix stable
  rw [writeCell, writeCell, escapeChars_eq_doubled, escapeChars_eq_doubled, folded, toList_returned,
    flatMap_spell_unescapeLines]

theorem writeRow_map_returned {cells : List String} (stable : ∀ cell ∈ cells, ¬Refolds cell) :
    writeRow (cells.map returned) = writeRow cells := by
  have same : cells.map (writeCell ∘ returned) = cells.map writeCell :=
    List.map_congr_left fun cell member => writeCell_returned (stable cell member)
  rw [writeRow, writeRow, List.map_map, same]

end Delimited

/-! ## A sheet -/

/-- The view of a grid of rows of one length shows these rows. -/
theorem Grid.rows_view_ofRows {rows : List (List String)} {width : Nat} (some : rows ≠ [])
    (uniform : ∀ row ∈ rows, row.length = width) : (ofRows rows).view.rows = rows := by
  have wide : (ofRows rows).view.columnCount = width := widest_eq_of_forall some uniform
  have high : (ofRows rows).view.rowCount = rows.length := rowCount_ofRows rows
  apply List.ext_getElem
  · simp [View.rows, high]
  · intro row below inside
    have sized : (rows[row]).length = width := uniform _ (List.getElem_mem inside)
    apply List.ext_getElem
    · simp [View.rows, View.row, high, inside, wide, sized]
    · intro column left right
      have shown : row < (ofRows rows).view.rowCount ∧ column < (ofRows rows).view.columnCount := by
        rw [high, wide]
        exact ⟨inside, sized ▸ right⟩
      have cell : (ofRows rows).view.cell row column = (ofRows rows).cell (0 + row) (0 + column) :=
        if_pos shown
      simp [View.rows, View.row, shown.1, cell, inside, right]

namespace View

variable {view : View} {property : String → Prop}

/-- What holds of an empty cell holds of all cells in the rows of a view when it holds of all
cells of the view. -/
theorem forall_mem_rows_iff (blank : property "") :
    (∀ row ∈ view.rows, ∀ text ∈ row, property text)
      ↔ ∀ row column, property (view.cell row column) := by
  constructor
  · intro holds row column
    rw [← getD_getElem?_rows]
    cases found : view.rows[row]? with
    | none => exact blank
    | some cells =>
        have listed := List.mem_of_getElem? found
        cases shown : cells[column]? with
        | none => simpa [shown] using blank
        | some text => simpa [shown] using holds cells listed text (List.mem_of_getElem? shown)
  · intro holds row member text inside
    rcases List.mem_map.mp member with ⟨index, _, rfl⟩
    rw [View.row] at inside
    split at inside
    · rcases List.mem_map.mp inside with ⟨column, _, rfl⟩
      exact holds index column
    · cases inside

end View

namespace Delimited

variable {view : View}

/-- The grid that the text of a view is read as. -/
def reread (view : View) : Grid := Grid.ofRows (view.rows.map (·.map returned))

theorem rowCount_reread (view : View) : (reread view).view.rowCount = view.rowCount := by
  change (reread view).rowCount = view.rowCount
  simp [reread, View.rows]

theorem length_of_mem_map_returned {row : List String}
    (member : row ∈ view.rows.map (·.map returned)) : row.length = view.columnCount := by
  rcases List.mem_map.mp member with ⟨shown, inside, rfl⟩
  rw [List.length_map, View.length_of_mem_rows inside]

theorem columnCount_reread (rows : 0 < view.rowCount) :
    (reread view).view.columnCount = view.columnCount := by
  have some : view.rows.map (·.map returned) ≠ [] := by simpa using View.rows_ne_nil rows
  exact widest_eq_of_forall some fun _ member => length_of_mem_map_returned member

theorem rows_reread (rows : 0 < view.rowCount) :
    (reread view).view.rows = view.rows.map (·.map returned) := by
  have some : view.rows.map (·.map returned) ≠ [] := by simpa using View.rows_ne_nil rows
  exact Grid.rows_view_ofRows some fun _ member => length_of_mem_map_returned member

/-- Where the same text is written again, no cell changes when it comes back once more. -/
theorem returned_returned_of_write_eq (rows : 0 < view.rowCount) (columns : 0 < view.columnCount)
    (same : write (reread view).view = write view) :
    ∀ row ∈ view.rows, ∀ cell ∈ row, returned (returned cell) = returned cell := by
  have high : 0 < (reread view).view.rowCount := by rwa [rowCount_reread]
  have wide : 0 < (reread view).view.columnCount := by rwa [columnCount_reread rows]
  have readAgain : read (write (reread view).view) = .ok (reread (reread view).view) :=
    read_write_eq high wide
  have readOnce : read (write view) = .ok (reread view) := read_write_eq rows columns
  rw [same, readOnce] at readAgain
  have shown := congrArg (fun grid => grid.view.rows) (Except.ok.inj readAgain)
  simp only [rows_reread high, rows_reread rows, List.map_map] at shown
  intro row member cell inside
  have stays := List.map_inj_left.mp shown row member
  rw [Function.comp_apply, List.map_map] at stays
  exact (List.map_inj_left.mp stays cell inside).symm

/-- The text of a view is written again from what it is read as, exactly if no cell has a carriage
return before a line end. -/
theorem write_read_iff (rows : 0 < view.rowCount) (columns : 0 < view.columnCount) :
    ∃ grid, read (write view) = .ok grid
      ∧ (write grid.view = write view ↔ ∀ row column, ¬Refolds (view.cell row column)) := by
  have everywhere : (∀ row ∈ view.rows, ∀ cell ∈ row, ¬Refolds cell)
      ↔ ∀ row column, ¬Refolds (view.cell row column) := View.forall_mem_rows_iff not_refolds_empty
  refine ⟨reread view, read_write_eq rows columns, ?_⟩
  rw [← everywhere]
  constructor
  · intro same row member cell inside
    rw [← returned_returned_iff]
    exact returned_returned_of_write_eq rows columns same row member cell inside
  · intro stable
    have lines : (view.rows.map (·.map returned)).map writeRow = view.rows.map writeRow := by
      rw [List.map_map]
      exact List.map_congr_left fun row member => writeRow_map_returned (stable row member)
    rw [write_eq, write_eq, rows_reread rows, lines]

/-- Notes with carriage returns of their own and with backslashes, seen without the column of
numbers. -/
def sampleReturns : View :=
  (Grid.ofRows [["id", "note"], ["1", "a\r\nb\r"], ["2", "\r\rc\\nd\r\\"]]).view.sliceColumns
    1 none

theorem sampleReturns_stable :
    0 < sampleReturns.rowCount ∧ 0 < sampleReturns.columnCount
      ∧ ∃ grid, read (write sampleReturns) = .ok grid ∧ write grid.view = write sampleReturns := by
  have rows : 0 < sampleReturns.rowCount := by decide
  have columns : 0 < sampleReturns.columnCount := by decide
  have shown : sampleReturns.rows = [["note"], ["a\r\nb\r"], ["\r\rc\\nd\r\\"]] := by
    decide +kernel
  have listed : ∀ row ∈ sampleReturns.rows, ∀ cell ∈ row, ¬Refolds cell := by
    rw [shown]
    simp only [Refolds]
    decide +kernel
  have stable : ∀ row column, ¬Refolds (sampleReturns.cell row column) :=
    (View.forall_mem_rows_iff not_refolds_empty).mp listed
  rcases write_read_iff rows columns with ⟨grid, back, same⟩
  exact ⟨rows, columns, grid, back, same.mpr stable⟩

/-- A note with a carriage return before a line end. -/
def doubleReturn : View := (Grid.ofRows [["a\r\r\nb"]]).view

/-- The carriage return is written the first time, and not the second time. -/
theorem doubleReturn_changes :
    0 < doubleReturn.rowCount ∧ 0 < doubleReturn.columnCount
      ∧ write doubleReturn = "\"a\r\\nb\""
      ∧ ∃ grid, read (write doubleReturn) = .ok grid ∧ write grid.view = "\"a\\nb\"" := by
  have rows : 0 < doubleReturn.rowCount := by decide
  have columns : 0 < doubleReturn.columnCount := by decide
  refine ⟨rows, columns, by decide +kernel, reread doubleReturn, read_write_eq rows columns, ?_⟩
  decide +kernel

end Delimited

end TypedSheets
