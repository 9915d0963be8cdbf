import TypedSheets.Proofs.Grid.Delimited

/-!
# Which texts are read

A line lists cells when it is empty or has one or more cells between quotes, with every quote
inside of a cell doubled and with a comma and a space from each cell to the next. These lines are
read, and besides them those that have a comma and a space after the last cell. A text is read
when all of its lines are, and otherwise the error is on the first line that is not.
-/

namespace TypedSheets.Delimited

variable {characters cell rest line following : List Char} {contents : List (List Char)}

/-! ## A cell -/

/-- Characters with every quote doubled. -/
def doubled (content : List Char) : List Char :=
  content.flatMap fun character => if character = '"' then ['"', '"'] else [character]

/-- A cell between its quotes. -/
def quoted (content : List Char) : List Char := '"' :: doubled content ++ ['"']

@[simp] theorem doubled_nil : doubled [] = [] := rfl

theorem doubled_quote (content : List Char) :
    doubled ('"' :: content) = '"' :: '"' :: doubled content := rfl

theorem doubled_plain {character : Char} (plain : character ≠ '"') (content : List Char) :
    doubled (character :: content) = character :: doubled content := by
  simp [doubled, plain]

/-- A cell ends at the first quote that is not doubled. -/
theorem readCell?_eq_some_iff :
    readCell? characters = some (cell, rest)
      ↔ characters = doubled cell ++ '"' :: rest ∧ rest.head? ≠ some '"' := by
  constructor
  · intro read
    fun_induction readCell? characters generalizing cell rest with
    | case1 => cases read
    | case2 tail ih =>
        rcases Option.map_eq_some_iff.mp read with ⟨⟨inner, after⟩, found, same⟩
        obtain ⟨rfl, rfl⟩ := Prod.mk.inj same
        rcases ih found with ⟨rfl, ends⟩
        exact ⟨rfl, ends⟩
    | case3 tail single =>
        obtain ⟨rfl, rfl⟩ := Prod.mk.inj (Option.some.inj read)
        refine ⟨rfl, ?_⟩
        intro again
        rcases List.head?_eq_some_iff.mp again with ⟨after, begins⟩
        exact single after begins
    | case4 character tail _ plain ih =>
        rcases Option.map_eq_some_iff.mp read with ⟨⟨inner, after⟩, found, same⟩
        obtain ⟨rfl, rfl⟩ := Prod.mk.inj same
        rcases ih found with ⟨rfl, ends⟩
        exact ⟨by rw [doubled_plain plain, List.cons_append], ends⟩
  · rintro ⟨rfl, ends⟩
    induction cell with
    | nil =>
        rw [doubled_nil, List.nil_append, readCell?]
        intro after begins
        rw [begins] at ends
        exact ends rfl
    | cons character cell ih =>
        by_cases quote : character = '"'
        · rw [quote, doubled_quote, List.cons_append, List.cons_append, readCell?, ih]
          rfl
        · rw [doubled_plain quote, List.cons_append, readCell?.eq_4 _ _ (fun _ same _ => quote same)
            quote, ih]
          rfl

theorem firstCell_eq_last_iff : firstCell line = .ok (cell, none) ↔ line = quoted cell := by
  constructor
  · intro first
    unfold firstCell at first
    split at first
    · next afterQuote =>
        split at first
        · cases first
        · next found =>
            cases first
            rw [(readCell?_eq_some_iff.mp found).1]
            rfl
        · cases first
        · cases first
    · cases first
  · rintro rfl
    have inner : readCell? (doubled cell ++ ['"']) = some (cell, []) :=
      readCell?_eq_some_iff.mpr ⟨rfl, by simp⟩
    simp only [quoted, firstCell, List.cons_append, inner]

theorem firstCell_eq_separated_iff :
    firstCell line = .ok (cell, some following) ↔ line = quoted cell ++ ',' :: ' ' :: following := by
  constructor
  · intro first
    unfold firstCell at first
    split at first
    · next afterQuote =>
        split at first
        · cases first
        · cases first
        · next found =>
            cases first
            rw [(readCell?_eq_some_iff.mp found).1]
            simp [quoted]
        · cases first
    · cases first
  · rintro rfl
    have inner : readCell? (doubled cell ++ '"' :: ',' :: ' ' :: following)
        = some (cell, ',' :: ' ' :: following) :=
      readCell?_eq_some_iff.mpr ⟨rfl, by simp⟩
    simp only [quoted, firstCell, List.cons_append, List.append_assoc, List.nil_append, inner]

/-! ## A line -/

/-- The line that lists cells. -/
def listed (contents : List (List Char)) : List Char :=
  [',', ' '].intercalate (contents.map quoted)

/-- Whether a line is empty or lists cells, with a separator between any two of them. -/
def IsListed (line : List Char) : Prop := ∃ contents, line = listed contents

/-- Whether a line lists cells and goes on with a separator that no cell follows. -/
def IsDangling (line : List Char) : Prop :=
  ∃ contents, contents ≠ [] ∧ line = listed contents ++ [',', ' ']

theorem listed_cons_cons (first second : List Char) (contents : List (List Char)) :
    listed (first :: second :: contents)
      = quoted first ++ ',' :: ' ' :: listed (second :: contents) := by
  simp [listed, List.intercalate_cons_cons]

theorem listed_singleton (content : List Char) : listed [content] = quoted content := by
  simp [listed]

theorem readLine_nil : readLine [] = .ok [] := by
  rw [readLine, if_pos rfl]

/-- The cells that are read are those that a line lists, whether or not one more separator
follows them. -/
theorem readLine_eq_ok_iff {row : List String} :
    readLine line = .ok row
      ↔ ∃ contents : List (List Char),
        row = contents.map (fun content => String.ofList (unescapeLines content))
          ∧ (line = listed contents ∨ contents ≠ [] ∧ line = listed contents ++ [',', ' ']) := by
  constructor
  · intro read
    fun_induction readLine line generalizing row with
    | case1 => exact ⟨[], (Except.ok.inj read).symm, .inl rfl⟩
    | case2 line _ fault first => cases read
    | case3 line _ content first =>
        refine ⟨[content], (Except.ok.inj read).symm, .inl ?_⟩
        rw [listed_singleton, ← firstCell_eq_last_iff, first]
    | case4 line _ content following first ih =>
        rw [firstCell_eq_separated_iff] at first
        cases found : readLine following with
        | error fault =>
            rw [found] at read
            cases read
        | ok others =>
            rw [found] at read
            rcases ih found with ⟨contents, rfl, ends⟩
            refine ⟨content :: contents, (Except.ok.inj read).symm, ?_⟩
            cases contents with
            | nil =>
                -- Nothing follows the separator, so it is the one after the last cell.
                obtain rfl : following = [] := by simpa [listed] using ends
                exact .inr ⟨List.cons_ne_nil _ _, by rw [listed_singleton, first]⟩
            | cons second contents =>
                rw [first, listed_cons_cons]
                rcases ends with rfl | ⟨_, rfl⟩
                · exact .inl rfl
                · exact .inr ⟨List.cons_ne_nil _ _, by simp⟩
  · rintro ⟨contents, rfl, ends⟩
    induction contents generalizing line with
    | nil =>
        obtain rfl : line = [] := by simpa [listed] using ends
        exact readLine_nil
    | cons content contents ih =>
        cases contents with
        | nil =>
            rw [listed_singleton] at ends
            rcases ends with rfl | ⟨_, rfl⟩
            · exact readLine_of_last (firstCell_eq_last_iff.mpr rfl)
            · rw [readLine_of_separated (firstCell_eq_separated_iff.mpr rfl), readLine_nil]
              rfl
        | cons second contents =>
            rw [listed_cons_cons] at ends
            rcases ends with rfl | ⟨_, rfl⟩
            · rw [readLine_of_separated (firstCell_eq_separated_iff.mpr rfl), ih (.inl rfl)]
              rfl
            · have others : readLine (listed (second :: contents) ++ [',', ' ']) = _ :=
                ih (.inr ⟨List.cons_ne_nil _ _, rfl⟩)
              rw [List.append_assoc, List.cons_append, List.cons_append,
                readLine_of_separated (firstCell_eq_separated_iff.mpr rfl), others]
              rfl

theorem isOk_readLine_iff :
    (∃ row, readLine line = .ok row) ↔ IsListed line ∨ IsDangling line := by
  constructor
  · rintro ⟨row, read⟩
    rcases readLine_eq_ok_iff.mp read with ⟨contents, _, lists | ⟨some, dangles⟩⟩
    · exact .inl ⟨contents, lists⟩
    · exact .inr ⟨contents, some, dangles⟩
  · rintro (⟨contents, lists⟩ | ⟨contents, some, dangles⟩)
    · exact ⟨_, readLine_eq_ok_iff.mpr ⟨contents, rfl, .inl lists⟩⟩
    · exact ⟨_, readLine_eq_ok_iff.mpr ⟨contents, rfl, .inr ⟨some, dangles⟩⟩⟩

/-- A line that lists any cells ends with the closing quote of the last one. -/
theorem exists_listed_eq_concat (some : contents ≠ []) :
    ∃ front, listed contents = front ++ ['"'] := by
  induction contents with
  | nil => exact absurd rfl some
  | cons content contents ih =>
      cases contents with
      | nil => exact ⟨'"' :: doubled content, listed_singleton content⟩
      | cons second contents =>
          rcases ih (List.cons_ne_nil _ _) with ⟨front, ends⟩
          exact ⟨quoted content ++ ',' :: ' ' :: front, by rw [listed_cons_cons, ends]; simp⟩

/-- A line with a separator at its end does not list cells. -/
theorem not_isListed_of_isDangling (dangling : IsDangling line) : ¬IsListed line := by
  rcases dangling with ⟨others, _, rfl⟩
  rintro ⟨contents, lists⟩
  by_cases some : contents = []
  · rw [some] at lists
    simp [listed] at lists
  · rcases exists_listed_eq_concat some with ⟨front, ends⟩
    rw [ends] at lists
    simpa using congrArg List.getLast? lists

/-! ## All lines -/

/-- Lines are read when each of them is. -/
theorem isOk_readLines_iff (number : Nat) {lines : List (List Char)} :
    (∃ rows, readLines number lines = .ok rows)
      ↔ ∀ line ∈ lines, ∃ row, readLine line = .ok row := by
  induction lines generalizing number with
  | nil => simp [readLines]
  | cons line lines ih =>
      rw [List.forall_mem_cons, ← ih (number + 1), readLines]
      cases readLine line with
      | error fault => simp
      | ok row => cases readLines (number + 1) lines <;> simp [Except.map]

/-- Otherwise the error is that of the first line that is not read, with its number. -/
theorem readLines_eq_error_iff {number : Nat} {lines : List (List Char)} {error : Error} :
    readLines number lines = .error error
      ↔ ∃ before line after, lines = before ++ line :: after
        ∧ (∀ earlier ∈ before, ∃ row, readLine earlier = .ok row)
        ∧ readLine line = .error error.fault ∧ error.line = number + before.length := by
  induction lines generalizing number with
  | nil => simp [readLines]
  | cons line lines ih =>
      rw [readLines]
      simp only [List.cons_eq_append_iff]
      cases first : readLine line with
      | error fault =>
          constructor
          · rintro same
            cases same
            exact ⟨[], line, lines, .inl ⟨rfl, rfl⟩, by simp, first, rfl⟩
          · rintro ⟨before, other, after, ⟨rfl, same⟩ | ⟨others, rfl, _⟩, read, refused, counted⟩
            · obtain ⟨rfl, _⟩ := List.cons.inj same
              rw [first] at refused
              cases refused
              rw [List.length_nil, Nat.add_zero] at counted
              rw [← counted]
            · rcases read line List.mem_cons_self with ⟨row, also⟩
              rw [first] at also
              cases also
      | ok row =>
          have later : (readLines (number + 1) lines).map (row :: ·) = .error error
              ↔ readLines (number + 1) lines = .error error := by
            cases readLines (number + 1) lines <;> simp [Except.map]
          rw [later, ih]
          constructor
          · rintro ⟨before, other, after, rfl, read, refused, counted⟩
            refine ⟨line :: before, other, after, .inr ⟨before, rfl, rfl⟩, ?_, refused, ?_⟩
            · exact List.forall_mem_cons.mpr ⟨⟨row, first⟩, read⟩
            · rw [counted, List.length_cons]
              omega
          · rintro ⟨before, other, after, ⟨rfl, same⟩ | ⟨others, rfl, rfl⟩, read, refused, counted⟩
            · obtain ⟨rfl, _⟩ := List.cons.inj same
              rw [first] at refused
              cases refused
            · refine ⟨others, other, after, rfl, (List.forall_mem_cons.mp read).2, refused, ?_⟩
              rw [counted, List.length_cons]
              omega

/-- The lines of a text, which has one more than it has line feeds. -/
def linesOf (text : String) : List (List Char) := Text.splitChars '\n' text.toList

/-- The empty text has one line, which is empty. -/
theorem readLines_linesOf_empty : readLines 1 (linesOf "") = .ok [[]] := by
  have single : linesOf "" = [[]] := rfl
  rw [single, readLines, readLine_nil]
  rfl

theorem isOk_read_iff (text : String) :
    (∃ grid, read text = .ok grid) ↔ ∃ rows, readLines 1 (linesOf text) = .ok rows := by
  rw [read]
  by_cases empty : text = ""
  · simp [empty, readLines_linesOf_empty]
  · rw [if_neg empty, ← linesOf]
    cases readLines 1 (linesOf text) <;> simp [Except.map]

theorem read_eq_error_iff (text : String) (error : Error) :
    read text = .error error ↔ readLines 1 (linesOf text) = .error error := by
  rw [read]
  by_cases empty : text = ""
  · simp [empty, readLines_linesOf_empty]
  · rw [if_neg empty, ← linesOf]
    cases readLines 1 (linesOf text) <;> simp [Except.map]

theorem isError_readLine_iff :
    (∃ fault, readLine line = .error fault) ↔ ¬(IsListed line ∨ IsDangling line) := by
  rw [← isOk_readLine_iff]
  cases readLine line <;> simp

/-- A text is read exactly if each of its lines lists cells, with or without one more separator
at its end. Otherwise the error has the number of the first line that does not. -/
theorem read_ok_iff (text : String) :
    ((∃ grid, read text = .ok grid) ↔ ∀ line ∈ linesOf text, IsListed line ∨ IsDangling line)
      ∧ ∀ number, (∃ fault, read text = .error ⟨number, fault⟩)
        ↔ ∃ before line after, linesOf text = before ++ line :: after
          ∧ (∀ earlier ∈ before, IsListed earlier ∨ IsDangling earlier)
          ∧ ¬(IsListed line ∨ IsDangling line) ∧ number = before.length + 1 := by
  constructor
  · rw [isOk_read_iff, isOk_readLines_iff]
    simp only [isOk_readLine_iff]
  · intro number
    simp only [read_eq_error_iff, readLines_eq_error_iff, isOk_readLine_iff, Nat.add_comm 1]
    constructor
    · rintro ⟨fault, before, line, after, split, read, refused, counted⟩
      exact ⟨before, line, after, split, read, isError_readLine_iff.mp ⟨fault, refused⟩, counted⟩
    · rintro ⟨before, line, after, split, read, stray, counted⟩
      rcases isError_readLine_iff.mpr stray with ⟨fault, refused⟩
      exact ⟨fault, before, line, after, split, read, refused, counted⟩

/-- A cell and a separator that no cell follows are read as the cell, though such a line does not
list cells. -/
theorem danglingSeparator_read :
    read "\"a\", " = .ok (Grid.ofRows [["a"]])
      ∧ linesOf "\"a\", " = ["\"a\", ".toList] ∧ ¬IsListed "\"a\", ".toList := by
  have dangling : "\"a\", ".toList = listed [['a']] ++ [',', ' '] := by decide
  have read : readLine ("\"a\", ".toList) = .ok ["a"] :=
    readLine_eq_ok_iff.mpr ⟨[['a']], rfl, .inr ⟨by simp, dangling⟩⟩
  have single : linesOf "\"a\", " = ["\"a\", ".toList] := by decide
  refine ⟨?_, single, not_isListed_of_isDangling ⟨[['a']], by simp, dangling⟩⟩
  rw [Delimited.read, if_neg (by decide), ← linesOf, single, readLines, read]
  rfl

end TypedSheets.Delimited
