import TypedSheets.Proofs.Text.Bytes
import TypedSheets.SheetText.Sheet

/-!
# Characters of a sheet

The reader of records goes from byte to byte, but delimiters, quotes and line ends are ASCII, so
it never ends a field inside of a character. With an ASCII delimiter every text is a grid, and
each character beyond ASCII that is not blank is in one of its cells, in the order of the text.
-/

namespace TypedSheets

/-- The characters of all cells, row by row. -/
def Grid.characters (grid : Grid) : List Char := grid.rows.flatten.flatMap String.toList

namespace SheetText

open Text Text.Utf8

/-! ## Reading a character -/

/-- What a reader has read of a record: complete fields and the characters of the open one. -/
structure Spells (state : OpenRecord) (fields : List (List Char)) (field : List Char) : Prop where
  current : state.field.reverse = bytesOf field
  complete : state.fields.reverse = fields.map bytesOf
  fresh : state.place = .recordStart → fields = [] ∧ field = []

/-- What reading ASCII does to a record: the foreign characters that were read stay, or the record
is complete. -/
inductive Moves (fields : List (List Char)) (field : List Char) :
    Option (List (List UInt8)) × OpenRecord → Prop where
  | stays {next : OpenRecord} {after : List (List Char)} {last : List Char}
      (spells : Spells next after last)
      (kept : (after.flatten ++ last).filter isForeign = (fields.flatten ++ field).filter isForeign) :
      Moves fields field (none, next)
  | ends : Moves fields field (some ((fields ++ [field]).map bytesOf), OpenRecord.start)

variable {delimiter byte : UInt8} {state : OpenRecord} {fields : List (List Char)}
variable {field : List Char} {character : Char}

theorem spells_start : Spells OpenRecord.start [] [] := ⟨rfl, rfl, fun _ => ⟨rfl, rfl⟩⟩

theorem Spells.close_eq (spells : Spells state fields field) :
    state.close = (fields ++ [field]).map bytesOf := by
  rw [OpenRecord.close, List.reverse_cons, spells.complete, spells.current, List.map_append]
  rfl

theorem Spells.moves_to (spells : Spells state fields field) {place : Place}
    (inside : place ≠ .recordStart) : Moves fields field (none, { state with place }) :=
  .stays ⟨spells.current, spells.complete, fun start => absurd start inside⟩ rfl

theorem Spells.moves_push (spells : Spells state fields field) {place : Place}
    (inside : place ≠ .recordStart) (ascii : isForeign character = false) :
    Moves fields field (none, state.push place (UInt8.ofNat character.toNat)) := by
  have read : (UInt8.ofNat character.toNat :: state.field).reverse = bytesOf (field ++ [character]) := by
    rw [List.reverse_cons, spells.current, bytesOf_append, bytesOf_cons, bytesOf_nil,
      utf8EncodeChar_of_not_foreign ascii]
    rfl
  refine .stays ⟨read, spells.complete, fun start => absurd start inside⟩ ?_
  simp [ascii]

theorem Spells.moves_outside (spells : Spells state fields field)
    (ascii : isForeign character = false) :
    Moves fields field (outside delimiter state (UInt8.ofNat character.toNat)) := by
  rw [outside]
  split
  · have ended : Spells state.endField (fields ++ [field]) [] := ⟨rfl, spells.close_eq, nofun⟩
    refine .stays ended ?_
    simp
  · split
    · rw [spells.close_eq]
      exact .ends
    · exact spells.moves_push nofun ascii

theorem Spells.moves_opening (spells : Spells state fields field)
    (ascii : isForeign character = false) :
    Moves fields field (opening delimiter state (UInt8.ofNat character.toNat)) := by
  rw [opening]
  split
  · exact spells.moves_to nofun
  · exact spells.moves_outside ascii

/-- An ASCII character is one step. -/
theorem Spells.moves_step (spells : Spells state fields field)
    (ascii : isForeign character = false) :
    Moves fields field (step delimiter state (UInt8.ofNat character.toNat)) := by
  rw [step]
  split
  · split
    · exact .stays spells rfl
    · exact spells.moves_opening ascii
  · exact spells.moves_opening ascii
  · exact spells.moves_outside ascii
  · split
    · exact spells.moves_to nofun
    · exact spells.moves_push nofun ascii
  · split
    · exact spells.moves_push nofun ascii
    · exact spells.moves_outside ascii

/-- A byte beyond ASCII belongs to the open field wherever it is read. -/
theorem step_of_high (ascii : delimiter < 0x80) (high : 0x80 ≤ byte) :
    step delimiter state byte
      = (none, state.push (if state.place = .quoted then .quoted else .bare) byte) := by
  have noDelimiter : byte ≠ delimiter := fun same => absurd ascii (by rw [← same]; simpa using high)
  have noQuote : byte ≠ quoteByte := by
    rintro rfl
    exact absurd high (by decide)
  have noEnd : isLineEnd byte = false := by
    rw [isLineEnd, Bool.or_eq_false_iff, beq_eq_false_iff_ne, beq_eq_false_iff_ne]
    constructor <;> rintro rfl <;> exact absurd high (by decide)
  rw [step]
  split <;> simp_all [opening, outside]

/-- Bytes beyond ASCII belong to the open field together. -/
theorem recordsFrom_of_high (ascii : delimiter < 0x80) {bytes : List UInt8} (some : bytes ≠ [])
    (high : ∀ byte ∈ bytes, 0x80 ≤ byte) (state : OpenRecord) (rest : List UInt8) :
    recordsFrom delimiter state (bytes ++ rest)
      = recordsFrom delimiter
          ⟨if state.place = .quoted then .quoted else .bare, bytes.reverse ++ state.field,
            state.fields⟩ rest := by
  induction bytes generalizing state with
  | nil => exact absurd rfl some
  | cons byte bytes ih =>
      rcases List.forall_mem_cons.mp high with ⟨first, others⟩
      rw [List.cons_append, recordsFrom, step_of_high ascii first]
      simp only [Option.toList_none, List.nil_append]
      cases bytes with
      | nil => rfl
      | cons following bytes =>
          rw [ih (List.cons_ne_nil _ _) others]
          by_cases quoted : state.place = .quoted
          · simp [OpenRecord.push, quoted]
          · simp [OpenRecord.push, quoted]

theorem Spells.read_foreign (spells : Spells state fields field) (ascii : delimiter < 0x80)
    (foreign : isForeign character = true) (rest : List UInt8) :
    ∃ next, Spells next fields (field ++ [character])
      ∧ recordsFrom delimiter state (String.utf8EncodeChar character ++ rest)
          = recordsFrom delimiter next rest := by
  have read := recordsFrom_of_high ascii String.utf8EncodeChar_ne_nil
    (high_of_mem_utf8EncodeChar foreign) state rest
  refine ⟨_, ?_, read⟩
  refine ⟨?_, spells.complete, ?_⟩
  · simp [spells.current]
  · intro start
    by_cases quoted : state.place = .quoted <;> simp [quoted] at start

/-! ## Reading a text -/

/-- With an ASCII delimiter the fields of a text are texts, and have all foreign characters. -/
theorem Spells.exists_records (ascii : delimiter < 0x80) (characters : List Char)
    (spells : Spells state fields field) :
    ∃ records : List (List (List Char)),
      recordsFrom delimiter state (bytesOf characters) = records.map (List.map bytesOf)
        ∧ records.flatten.flatten.filter isForeign
            = (fields.flatten ++ field ++ characters).filter isForeign := by
  induction characters generalizing state fields field with
  | nil =>
      rw [bytesOf_nil, recordsFrom]
      split
      · next start =>
          obtain ⟨rfl, rfl⟩ := spells.fresh start
          exact ⟨[], rfl, rfl⟩
      · exact ⟨[fields ++ [field]], by rw [spells.close_eq]; rfl, by simp⟩
  | cons character characters ih =>
      rw [bytesOf_cons]
      cases here : isForeign character with
      | true =>
          rcases spells.read_foreign ascii here (bytesOf characters) with ⟨next, spelled, read⟩
          rcases ih spelled with ⟨records, found, kept⟩
          exact ⟨records, read.trans found, by simpa using kept⟩
      | false =>
          have moved : Moves fields field (step delimiter state (UInt8.ofNat character.toNat)) :=
            spells.moves_step here
          rw [utf8EncodeChar_of_not_foreign here, List.singleton_append, recordsFrom]
          generalize step delimiter state (UInt8.ofNat character.toNat) = moves at moved
          cases moved with
          | stays spelled same =>
              rcases ih spelled with ⟨records, found, kept⟩
              refine ⟨records, found, ?_⟩
              rw [kept, List.filter_append, same]
              simp [here]
          | ends =>
              rcases ih spells_start with ⟨records, found, kept⟩
              refine ⟨(fields ++ [field]) :: records, ?_, ?_⟩
              · simp [found]
              · simp [kept, here]

/-- Texts that were written are decoded. -/
theorem decodeRecords_bytesOf (number : Nat) (records : List (List (List Char))) :
    decodeRecords number (records.map (List.map bytesOf))
      = .ok (records.map (List.map String.ofList)) := by
  have cells : ∀ fields : List (List Char),
      (fields.map bytesOf).mapM decode? = some (fields.map String.ofList) := by
    intro fields
    induction fields with
    | nil => rfl
    | cons field fields ih => simp [List.mapM_cons, decode?_bytesOf, ih]
  induction records generalizing number with
  | nil => rfl
  | cons fields records ih => simp [decodeRecords, cells, ih, Except.map]

theorem dropByteOrderMark_bytesOf {characters : List Char}
    (unmarked : characters.head? ≠ some '\uFEFF') :
    dropByteOrderMark (bytesOf characters) = bytesOf characters := by
  unfold dropByteOrderMark
  split
  · next rest bytes =>
      have marked : bytesOf ['\uFEFF'] ++ rest = bytesOf characters := bytes.symm
      rcases isPrefix_of_bytesOf_append marked with ⟨after, rfl⟩
      exact absurd rfl unmarked
  · rfl

/-- Rows of blank cells hold no striking character. -/
theorem filter_isStriking_of_rows (rows : List (List String)) :
    ((rows.filter fun cells => !cells.all blank).flatten.flatMap String.toList).filter isStriking
      = (rows.flatten.flatMap String.toList).filter isStriking := by
  induction rows with
  | nil => rfl
  | cons cells rows ih =>
      cases blanks : cells.all blank with
      | true =>
          have nothing : (cells.flatMap String.toList).filter isStriking = [] := by
            rw [List.filter_eq_nil_iff]
            intro character member
            rcases List.mem_flatMap.mp member with ⟨cell, listed, inside⟩
            have isBlank := List.all_eq_true.mp (List.all_eq_true.mp blanks cell listed) character inside
            simp [isStriking, isBlank]
          rw [List.filter_cons_of_neg (by simp [blanks]), ih]
          simp [nothing]
      | false =>
          rw [List.filter_cons_of_pos (by simp [blanks])]
          simp [ih]

/-- The cells that bring rows to one width are empty. -/
theorem characters_ofRows (rows : List (List String)) :
    (Grid.ofRows rows).characters = rows.flatten.flatMap String.toList := by
  have padded : ∀ width, (rows.map (padRow width)).flatten.flatMap String.toList
      = rows.flatten.flatMap String.toList := by
    intro width
    induction rows with
    | nil => rfl
    | cons row rows ih => simp [padRow, ih]
  exact padded (widest rows)

/-- With an ASCII delimiter every text is a grid, which holds its striking characters in their
order. -/
theorem exists_parse {text : String} {delimiter : Char} (ascii : delimiter.toNat < 0x80)
    (unmarked : text.toList.head? ≠ some '\uFEFF') :
    ∃ grid, parse text delimiter = .ok grid
      ∧ grid.characters.filter isStriking = text.toList.filter isStriking := by
  have small : UInt8.ofNat delimiter.toNat < 0x80 := by
    rw [UInt8.lt_iff_toNat_lt, toNat_ofNat_of_lt (Nat.lt_trans ascii (by decide))]
    exact ascii
  rcases spells_start.exists_records small text.toList with ⟨read, found, kept⟩
  have decoded : (read.map (List.map String.ofList)).flatten.flatMap String.toList
      = read.flatten.flatten := by
    simp [← List.map_flatten, List.flatMap_def, Function.comp_def]
  have parsed : parse text delimiter
      = .ok (Grid.ofRows ((read.map (List.map String.ofList)).filter fun cells => !cells.all blank)) := by
    rw [parse, records, toList_toUTF8, dropByteOrderMark_bytesOf unmarked, found,
      decodeRecords_bytesOf]
    rfl
  refine ⟨_, parsed, ?_⟩
  rw [characters_ofRows, filter_isStriking_of_rows, decoded]
  exact filter_isStriking (by simpa using kept)

end SheetText

end TypedSheets
