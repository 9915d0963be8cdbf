import TypedSheets.Grid.Delimited
import TypedSheets.Proofs.Text.Split

/-!
# Quoted text is read back

The text of a view with at least one row and one column is the text of a grid of the same
size. Its cells are those of the view but for line ends: a carriage return before a line
feed is lost, and a backslash with an `n` comes back as the line feed that it stands for.
-/

namespace TypedSheets

namespace Delimited

/-! ## A cell -/

/-- Characters with a line feed for every pair of a carriage return and a line feed. -/
def foldLineEnds (characters : List Char) : List Char :=
  Text.replaceFrom ['\r', '\n'] ['\n'] 0 characters

/-- How a character other than a quote stands between quotes. -/
def spell (character : Char) : List Char :=
  if character = '\n' then ['\\', 'n'] else [character]

/-- The text that a cell comes back with: every pair of a carriage return and a line feed
is a line feed, and then every backslash with an `n` is one. -/
def returned (cell : String) : String :=
  Text.replaceAll "\\n" "\n" (Text.replaceAll "\r\n" "\n" cell)

theorem unescapeLines_eq_replaceFrom (characters : List Char) :
    unescapeLines characters = Text.replaceFrom ['\\', 'n'] ['\n'] 0 characters := by
  fun_induction unescapeLines characters with
  | case1 => rfl
  | case2 rest ih => simp [Text.replaceFrom, ih]
  | case3 character rest different ih =>
      have differs : ¬['\\', 'n'] <+: character :: rest := by
        rintro ⟨after, same⟩
        simp only [List.cons_append, List.nil_append, List.cons.injEq] at same
        exact different after same.1.symm same.2.symm
      rw [Text.replaceFrom_of_not_begins differs, ih]

/-- Line feeds may be written as a backslash and an `n` before these are read as line
feeds. -/
theorem unescapeLines_flatMap_spell (characters : List Char) :
    unescapeLines (characters.flatMap spell) = unescapeLines characters := by
  fun_induction unescapeLines characters with
  | case1 => rfl
  | case2 rest ih => simp [spell, unescapeLines, ih]
  | case3 character rest different ih =>
      by_cases feed : character = '\n'
      · simp [feed, spell, unescapeLines, ih]
      · -- A backslash before a line feed is not taken for the one that stands for it.
        have apart : ∀ after, character = '\\' → rest.flatMap spell = 'n' :: after → False := by
          intro after backslash begins
          cases rest with
          | nil => simp at begins
          | cons next rest =>
              by_cases other : next = '\n'
              · simp [other, spell] at begins
              · simp only [List.flatMap_cons, spell, other, ↓reduceIte, List.cons_append,
                  List.nil_append, List.cons.injEq] at begins
                exact different rest backslash (by rw [begins.1])
        simp only [List.flatMap_cons, spell, feed, ↓reduceIte, List.cons_append, List.nil_append]
        rw [unescapeLines.eq_3 _ _ apart, ih]

/-- A cell between its quotes is read up to the closing quote. -/
theorem readCell?_escapeChars (characters rest : List Char)
    (ends : rest.head? ≠ some '"') :
    readCell? (escapeChars characters ++ '"' :: rest)
      = some ((foldLineEnds characters).flatMap spell, rest) := by
  fun_induction escapeChars characters with
  | case1 =>
      cases rest with
      | nil => rfl
      | cons next rest =>
          have other : next ≠ '"' := by simpa using ends
          simp [readCell?, foldLineEnds, Text.replaceFrom, other]
  | case2 characters ih =>
      simp [readCell?, ih, foldLineEnds, Text.replaceFrom, spell]
  | case3 characters ih =>
      simp [readCell?, ih, foldLineEnds, Text.replaceFrom, spell]
  | case4 characters ih =>
      simp [readCell?, ih, foldLineEnds, Text.replaceFrom, spell]
  | case5 character characters noQuote noPair noFeed ih =>
      have differs : ¬['\r', '\n'] <+: character :: characters := by
        rintro ⟨after, same⟩
        simp only [List.cons_append, List.nil_append, List.cons.injEq] at same
        exact noPair after same.1.symm same.2.symm
      have plain : spell character = [character] := if_neg noFeed
      rw [List.cons_append, readCell?.eq_4 _ _ (fun _ quote _ => noQuote quote) noQuote, ih]
      simp [foldLineEnds, Text.replaceFrom_of_not_begins differs, plain]

theorem feed_not_mem_escapeChars (characters : List Char) : '\n' ∉ escapeChars characters := by
  fun_induction escapeChars characters with
  | case1 => simp
  | case2 characters ih => simpa using ih
  | case3 characters ih => simpa using ih
  | case4 characters ih => simpa using ih
  | case5 character characters _ _ noFeed ih => simpa [Ne.symm noFeed] using ih

/-- What is read between the quotes of a cell stands for the cell as it comes back. -/
theorem ofList_unescapeLines (cell : String) :
    String.ofList (unescapeLines ((foldLineEnds cell.toList).flatMap spell)) = returned cell := by
  rw [unescapeLines_flatMap_spell, unescapeLines_eq_replaceFrom]
  simp [returned, Text.replaceAll, foldLineEnds]

/-- A cell comes back as it was when it has neither of the two line ends. -/
theorem returned_eq_self_iff (cell : String) :
    returned cell = cell ↔ ¬['\r', '\n'] <:+: cell.toList ∧ ¬['\\', 'n'] <:+: cell.toList := by
  have toList : (returned cell).toList
      = Text.replaceFrom ['\\', 'n'] ['\n'] 0 (foldLineEnds cell.toList) := by
    simp [returned, Text.replaceAll, foldLineEnds]
  rw [← String.toList_inj, toList]
  constructor
  · intro same
    have length := congrArg List.length same
    have unfolded : ¬['\r', '\n'] <:+: cell.toList := by
      intro occurs
      have fewer : (foldLineEnds cell.toList).length < cell.toList.length :=
        Text.length_replaceFrom_lt (by decide) occurs
      have kept : (Text.replaceFrom ['\\', 'n'] ['\n'] 0 (foldLineEnds cell.toList)).length
          ≤ (foldLineEnds cell.toList).length :=
        Text.length_replaceFrom_le (by decide) 0 _
      rw [length] at kept
      exact absurd fewer (Nat.not_lt.mpr kept)
    refine ⟨unfolded, ?_⟩
    intro occurs
    rw [foldLineEnds, Text.replaceFrom_of_not_infix unfolded] at length
    have fewer : (Text.replaceFrom ['\\', 'n'] ['\n'] 0 cell.toList).length < cell.toList.length :=
      Text.length_replaceFrom_lt (by decide) occurs
    exact absurd length (Nat.ne_of_lt fewer)
  · rintro ⟨noPair, noEscape⟩
    rw [foldLineEnds, Text.replaceFrom_of_not_infix noPair, Text.replaceFrom_of_not_infix noEscape]

/-! ## A line -/

theorem firstCell_writeCell (cell : String) :
    firstCell (writeCell cell) = .ok ((foldLineEnds cell.toList).flatMap spell, none) := by
  have inner := readCell?_escapeChars cell.toList [] (by simp)
  simp only [firstCell, writeCell, List.cons_append, inner]

theorem firstCell_writeCell_append (cell : String) (following : List Char) :
    firstCell (writeCell cell ++ ',' :: ' ' :: following)
      = .ok ((foldLineEnds cell.toList).flatMap spell, some following) := by
  have inner := readCell?_escapeChars cell.toList (',' :: ' ' :: following) (by simp)
  simp only [firstCell, writeCell, List.cons_append, List.append_assoc, List.nil_append, inner]

theorem readLine_of_last {line cell : List Char} (first : firstCell line = .ok (cell, none)) :
    readLine line = .ok [String.ofList (unescapeLines cell)] := by
  have some : line ≠ [] := by
    rintro rfl
    simp [firstCell] at first
  rw [readLine, if_neg some]
  split
  · simp_all
  · simp_all
  · simp_all

theorem readLine_of_separated {line cell following : List Char}
    (first : firstCell line = .ok (cell, some following)) :
    readLine line
      = (readLine following).map (String.ofList (unescapeLines cell) :: ·) := by
  have some : line ≠ [] := by
    rintro rfl
    simp [firstCell] at first
  rw [readLine, if_neg some]
  split
  · simp_all
  · simp_all
  · simp_all

/-- The line of a row is read cell by cell. -/
theorem readLine_writeRow {cells : List String} (some : cells ≠ []) :
    readLine (writeRow cells) = .ok (cells.map returned) := by
  induction cells with
  | nil => exact absurd rfl some
  | cons cell cells ih =>
      cases cells with
      | nil =>
          simp only [writeRow, List.map_cons, List.map_nil, List.intercalate_singleton]
          rw [readLine_of_last (firstCell_writeCell cell), ofList_unescapeLines]
      | cons next cells =>
          have line : writeRow (cell :: next :: cells)
              = writeCell cell ++ ',' :: ' ' :: writeRow (next :: cells) := by
            simp [writeRow, List.intercalate_cons_cons]
          rw [line, readLine_of_separated (firstCell_writeCell_append _ _), ih (List.cons_ne_nil _ _),
            ofList_unescapeLines]
          rfl

theorem feed_not_mem_writeRow (cells : List String) : '\n' ∉ writeRow cells := by
  induction cells with
  | nil => simp [writeRow]
  | cons cell cells ih =>
      have first : '\n' ∉ writeCell cell := by simp [writeCell, feed_not_mem_escapeChars]
      cases cells with
      | nil => simpa [writeRow] using first
      | cons next cells =>
          simp only [writeRow, List.map_cons, List.intercalate_cons_cons] at ih ⊢
          simp [first, ih]

/-! ## All lines -/

theorem readLines_map_writeRow (number : Nat) {rows : List (List String)}
    (some : ∀ row ∈ rows, row ≠ []) :
    readLines number (rows.map writeRow) = .ok (rows.map (·.map returned)) := by
  induction rows generalizing number with
  | nil => rfl
  | cons row rows ih =>
      have rest := ih (number + 1) fun other member => some other (List.mem_cons_of_mem _ member)
      simp only [List.map_cons, readLines, readLine_writeRow (some row List.mem_cons_self), rest]
      rfl

end Delimited

namespace View

variable {view : View}

/-- The rows that a view shows. -/
def rows (view : View) : List (List String) :=
  (List.range view.rowCount).map view.row

theorem length_of_mem_rows {row : List String} (member : row ∈ view.rows) :
    row.length = view.columnCount := by
  rcases List.mem_map.mp member with ⟨index, inside, rfl⟩
  simp [row, List.mem_range.mp inside]

theorem ne_nil_of_mem_rows (columns : 0 < view.columnCount) {row : List String}
    (member : row ∈ view.rows) : row ≠ [] := by
  rintro rfl
  exact Nat.ne_of_lt columns (length_of_mem_rows member)

theorem rows_ne_nil (rows : 0 < view.rowCount) : view.rows ≠ [] := by
  simp [View.rows, Nat.ne_of_gt rows]

/-- A cell of a view by its place in the rows. -/
theorem getD_getElem?_rows (view : View) (row column : Nat) :
    ((view.rows[row]?).bind (·[column]?)).getD "" = view.cell row column := by
  by_cases below : row < view.rowCount
  · by_cases inside : column < view.columnCount
    · simp [rows, View.row, below, inside]
    · simp [rows, View.row, below, inside, cell]
  · simp [rows, below, cell]

end View

namespace Delimited

variable {view : View}

theorem write_eq (view : View) :
    write view = String.ofList (['\n'].intercalate (view.rows.map writeRow)) := by
  simp [write, View.rows, Function.comp_def]

theorem writeRow_ne_nil {cells : List String} (some : cells ≠ []) : writeRow cells ≠ [] := by
  cases cells with
  | nil => exact absurd rfl some
  | cons cell cells =>
      cases cells with
      | nil => simp [writeRow, writeCell]
      | cons next cells => simp [writeRow, writeCell, List.intercalate_cons_cons]

theorem write_ne_empty (rows : 0 < view.rowCount) (columns : 0 < view.columnCount) :
    write view ≠ "" := by
  rcases List.exists_cons_of_ne_nil (View.rows_ne_nil rows) with ⟨row, others, shown⟩
  have first := writeRow_ne_nil (View.ne_nil_of_mem_rows columns (by rw [shown]; exact List.mem_cons_self))
  rw [write_eq, shown]
  intro empty
  have nothing := String.ofList_eq_empty_iff.mp empty
  cases others with
  | nil => exact first (by simpa using nothing)
  | cons next others =>
      rw [List.map_cons, List.map_cons, List.intercalate_cons_cons] at nothing
      simp at nothing

/-- The text of a view is the text of its rows, each cell as it comes back. -/
theorem read_write_eq (rows : 0 < view.rowCount) (columns : 0 < view.columnCount) :
    read (write view) = .ok (Grid.ofRows (view.rows.map (·.map returned))) := by
  have lines : Text.splitChars '\n' (write view).toList = view.rows.map writeRow := by
    rw [write_eq, String.toList_ofList]
    apply Text.splitChars_intercalate
    · intro line member
      rcases List.mem_map.mp member with ⟨row, _, rfl⟩
      exact feed_not_mem_writeRow row
    · simpa using View.rows_ne_nil rows
  rw [read, if_neg (write_ne_empty rows columns), lines,
    readLines_map_writeRow 1 fun _ member => View.ne_nil_of_mem_rows columns member]
  rfl

/-- The text of a view is read as a grid of the same size, whose cells are those of the
view exactly when none of them has a line end that reads back as another one. -/
theorem read_write_view (rows : 0 < view.rowCount) (columns : 0 < view.columnCount) :
    ∃ grid, read (write view) = .ok grid
      ∧ grid.rowCount = view.rowCount
      ∧ grid.columnCount = view.columnCount
      ∧ (∀ row column, grid.cell row column = returned (view.cell row column))
      ∧ ((∀ row column, grid.cell row column = view.cell row column)
          ↔ ∀ row column, ¬['\r', '\n'] <:+: (view.cell row column).toList
              ∧ ¬['\\', 'n'] <:+: (view.cell row column).toList) := by
  have empty : returned "" = "" := rfl
  have cells : ∀ row column, (Grid.ofRows (view.rows.map (·.map returned))).cell row column
      = returned (view.cell row column) := by
    intro row column
    rw [Grid.cell_ofRows, ← View.getD_getElem?_rows view, List.getElem?_map]
    cases view.rows[row]? with
    | none => exact empty.symm
    | some shown =>
        simp only [Option.map_some, Option.bind_some, List.getElem?_map]
        cases shown[column]? with
        | none => exact empty.symm
        | some text => rfl
  have width : widest (view.rows.map (·.map returned)) = view.columnCount := by
    apply widest_eq_of_forall
    · simpa using View.rows_ne_nil rows
    · intro row member
      rcases List.mem_map.mp member with ⟨shown, inside, rfl⟩
      rw [List.length_map, View.length_of_mem_rows inside]
  refine ⟨_, read_write_eq rows columns, ?_, width, cells, ?_⟩
  · simp [View.rows]
  · simp only [cells, returned_eq_self_iff]

/-- Notes with quotes at their ends, a separator, both line ends and a backslash of their
own, seen without the column of numbers. -/
def sampleNotes : View :=
  (Grid.ofRows [["id", "note"], ["1", "\"go\"\r\nand\\now"], ["2", "a\", \"b\\\n"], ["3"]]).view.sliceColumns
    1 none

theorem sampleNotes_read :
    0 < sampleNotes.rowCount ∧ 0 < sampleNotes.columnCount
      ∧ ∃ grid, read (write sampleNotes) = .ok grid
        ∧ grid.rowCount = sampleNotes.rowCount
        ∧ grid.columnCount = sampleNotes.columnCount
        ∧ (∀ row column, grid.cell row column = returned (sampleNotes.cell row column))
        ∧ ((∀ row column, grid.cell row column = sampleNotes.cell row column)
            ↔ ∀ row column, ¬['\r', '\n'] <:+: (sampleNotes.cell row column).toList
                ∧ ¬['\\', 'n'] <:+: (sampleNotes.cell row column).toList) := by
  have rows : 0 < sampleNotes.rowCount := by decide
  have columns : 0 < sampleNotes.columnCount := by decide
  exact ⟨rows, columns, read_write_view rows columns⟩

/-- A carriage return before a line feed and a backslash with an `n` are lost. -/
example : returned "\"go\"\r\nand\\now" = "\"go\"\nand\now" := by cbv

end Delimited

end TypedSheets
