import TypedSheets.Proofs.SheetText.Encoding

/-!
# Empty lines before a sheet

The reader of records skips empty lines, so a sheet has the same grid for a given delimiter when
it begins with some. But the delimiter is looked for in the first line even if that one is empty,
and is a comma then.
-/

namespace TypedSheets.SheetText

open Text Text.Utf8

variable {text : String} {ends : List Char}

/-- Whether characters end empty lines. -/
def IsLineEnds (ends : List Char) : Prop :=
  ∀ character ∈ ends, character = '\n' ∨ character = '\r'

/-- A text after empty lines, which are given by their ends. -/
def afterLines (ends : List Char) (text : String) : String := String.ofList (ends ++ text.toList)

/-! ## Records -/

/-- A line end before a record changes nothing. -/
theorem step_start_of_isLineEnd {delimiter byte : UInt8} (ends : isLineEnd byte = true) :
    step delimiter OpenRecord.start byte = (none, OpenRecord.start) :=
  if_pos ends

theorem recordsFrom_lineEnds (delimiter : UInt8) (bytes : List UInt8) (empty : IsLineEnds ends) :
    recordsFrom delimiter OpenRecord.start (bytesOf ends ++ bytes)
      = recordsFrom delimiter OpenRecord.start bytes := by
  induction ends with
  | nil => rfl
  | cons character ends ih =>
      rcases List.forall_mem_cons.mp empty with ⟨first, rest⟩
      have skipped : ∃ byte, String.utf8EncodeChar character = [byte] ∧ isLineEnd byte = true := by
        rcases first with rfl | rfl
        · exact ⟨0x0A, rfl, rfl⟩
        · exact ⟨0x0D, rfl, rfl⟩
      rcases skipped with ⟨byte, encoded, isEnd⟩
      rw [bytesOf_cons, encoded, List.append_assoc, List.singleton_append, recordsFrom,
        step_start_of_isLineEnd isEnd]
      exact ih rest

theorem afterLines_unmarked (unmarked : text.toList.head? ≠ some '\uFEFF') (empty : IsLineEnds ends) :
    (afterLines ends text).toList.head? ≠ some '\uFEFF' := by
  rw [afterLines, String.toList_ofList]
  cases ends with
  | nil => exact unmarked
  | cons character ends =>
      rcases empty character List.mem_cons_self with rfl | rfl <;> simp

/-- Empty lines before a text do not change the grid that it is for a delimiter. -/
theorem parse_afterLines (unmarked : text.toList.head? ≠ some '\uFEFF') (empty : IsLineEnds ends)
    (delimiter : Char) : parse (afterLines ends text) delimiter = parse text delimiter := by
  have later := afterLines_unmarked unmarked empty
  rw [parse, parse, toList_toUTF8, toList_toUTF8, records, records, dropByteOrderMark_bytesOf later,
    dropByteOrderMark_bytesOf unmarked, afterLines, String.toList_ofList, bytesOf_append,
    recordsFrom_lineEnds _ _ empty]

/-! ## Delimiters -/

/-- Where a line feed ends an empty line, the first line holds no delimiter. -/
theorem count_firstLine_afterLines {delimiter : Char} (empty : IsLineEnds ends)
    (other : delimiter ∉ ends) :
    (firstLine (afterLines ends text)).count delimiter
      = if '\n' ∈ ends then 0 else (firstLine text).count delimiter := by
  rw [firstLine, afterLines, String.toList_ofList]
  induction ends with
  | nil => rfl
  | cons character ends ih =>
      rcases List.forall_mem_cons.mp empty with ⟨first, rest⟩
      have differs : delimiter ≠ character := List.ne_of_not_mem_cons other
      have absent : delimiter ∉ ends := List.not_mem_of_not_mem_cons other
      rcases first with rfl | rfl
      · simp
      · simpa [List.count_cons, differs.symm] using ih rest absent

theorem notMem_of_mem_delimiters {delimiter : Char} (member : delimiter ∈ delimiters)
    (empty : IsLineEnds ends) : delimiter ∉ ends := by
  intro listed
  rcases empty delimiter listed with rfl | rfl
  · exact absurd member (by decide)
  · exact absurd member (by decide)

theorem detectDelimiter_afterLines (text : String) (empty : IsLineEnds ends) :
    detectDelimiter (afterLines ends text) = if '\n' ∈ ends then ',' else detectDelimiter text := by
  split
  · next feed =>
      have none : detectDelimiter (afterLines ends text) = detectDelimiter "" := by
        apply detectDelimiter_congr
        intro delimiter member
        rw [count_firstLine_afterLines empty (notMem_of_mem_delimiters member empty), if_pos feed]
        rfl
      exact none.trans (by decide)
  · next noFeed =>
      apply detectDelimiter_congr
      intro delimiter member
      rw [count_firstLine_afterLines empty (notMem_of_mem_delimiters member empty), if_neg noFeed]

/-! ## Reading -/

theorem unmarked_of_ascii (ascii : text.toList.filter isForeign = []) :
    text.toList.head? ≠ some '\uFEFF' := by
  intro marked
  have plain := List.filter_eq_nil_iff.mp ascii _ (List.mem_of_head? marked)
  exact plain (by decide)

theorem filter_isForeign_afterLines (ascii : text.toList.filter isForeign = [])
    (empty : IsLineEnds ends) : (afterLines ends text).toList.filter isForeign = [] := by
  have plain : ends.filter isForeign = [] := by
    rw [List.filter_eq_nil_iff]
    intro character member
    rcases empty character member with rfl | rfl <;> decide
  rw [afterLines, String.toList_ofList, List.filter_append, plain, ascii, List.nil_append]

/-- ASCII is always read as it was written. -/
theorem read_of_ascii (ascii : text.toList.filter isForeign = []) :
    ∃ grid, parse text (detectDelimiter text) = .ok grid
      ∧ read text.toUTF8 = .ok ⟨grid, "utf-8", detectDelimiter text⟩ := by
  have unmarked := unmarked_of_ascii ascii
  have small := lt_of_isAscii (isAscii_of_mem_delimiters (detectDelimiter_mem text))
  rcases exists_parse small unmarked with ⟨grid, parsed, -⟩
  exact ⟨grid, parsed,
    read_of_not_seemsLatin unmarked (not_seemsLatin_of_ascii ascii) parsed⟩

/-- Empty lines before ASCII text do not change the sheet exactly when none ends in a line feed or
the delimiter is a comma anyway. Otherwise the same text is read with commas. -/
theorem read_afterLines (ascii : text.toList.filter isForeign = []) (empty : IsLineEnds ends) :
    ∃ grid other, read text.toUTF8 = .ok ⟨grid, "utf-8", detectDelimiter text⟩
      ∧ read (afterLines ends text).toUTF8
          = .ok ⟨other, "utf-8", if '\n' ∈ ends then ',' else detectDelimiter text⟩
      ∧ parse text (if '\n' ∈ ends then ',' else detectDelimiter text) = .ok other
      ∧ (read (afterLines ends text).toUTF8 = read text.toUTF8
          ↔ '\n' ∉ ends ∨ detectDelimiter text = ',') := by
  rcases read_of_ascii ascii with ⟨grid, parsed, whole⟩
  rcases read_of_ascii (filter_isForeign_afterLines ascii empty) with ⟨other, reparsed, later⟩
  rw [detectDelimiter_afterLines text empty] at reparsed later
  rw [parse_afterLines (unmarked_of_ascii ascii) empty] at reparsed
  refine ⟨grid, other, whole, later, reparsed, ?_⟩
  constructor
  · intro same
    rw [whole, later] at same
    have delimiters := congrArg Sheet.delimiter (Except.ok.inj same)
    by_cases feed : '\n' ∈ ends
    · right
      simpa [feed] using delimiters.symm
    · exact .inl feed
  · intro unaffected
    have kept : (if '\n' ∈ ends then ',' else detectDelimiter text) = detectDelimiter text := by
      rcases unaffected with noFeed | comma
      · exact if_neg noFeed
      · rw [comma, ite_self]
    rw [kept, parsed] at reparsed
    cases reparsed
    rw [whole, later, kept]

theorem commas_afterLines :
    "a,b".toList.filter isForeign = [] ∧ IsLineEnds ['\r', '\n', '\n']
      ∧ read (afterLines ['\r', '\n', '\n'] "a,b").toUTF8 = read "a,b".toUTF8 := by
  have ascii : "a,b".toList.filter isForeign = [] := by decide
  have empty : IsLineEnds ['\r', '\n', '\n'] := by simp [IsLineEnds]
  have comma : detectDelimiter "a,b" = ',' := by decide
  rcases read_afterLines ascii empty with ⟨_, _, -, -, -, same_iff⟩
  exact ⟨ascii, empty, same_iff.mpr (.inr comma)⟩

/-- An empty line before a sheet with semicolons makes its first record one cell. -/
theorem emptyLine_hides_delimiter :
    (read "a;b".toUTF8).map (fun sheet => (sheet.grid.rows, sheet.delimiter))
        = .ok ([["a", "b"]], ';')
      ∧ (read (afterLines ['\n'] "a;b").toUTF8).map (fun sheet => (sheet.grid.rows, sheet.delimiter))
        = .ok ([["a;b"]], ',') := by
  decide +kernel

end TypedSheets.SheetText
