import TypedSheets.Grid.View
import TypedSheets.Text.Split

/-!
# Quoted text of a grid

One line a row, its cells between quotes and joined by a comma and a space. Inside a
cell a quote is doubled and a line end becomes a backslash and an `n`, so a line of
text is always a row. Reading undoes this, taking every backslash with an `n` for a
line feed.
-/

namespace TypedSheets.Delimited

/-- A cell between its quotes: quotes doubled, line ends as a backslash and an `n`. -/
def escapeChars : List Char → List Char
  | [] => []
  | '"' :: rest => '"' :: '"' :: escapeChars rest
  | '\r' :: '\n' :: rest => '\\' :: 'n' :: escapeChars rest
  | '\n' :: rest => '\\' :: 'n' :: escapeChars rest
  | character :: rest => character :: escapeChars rest

/-- The text of a cell between its quotes. -/
def escape (cell : String) : String :=
  String.ofList (escapeChars cell.toList)

/-- A cell with its quotes. -/
def writeCell (cell : String) : List Char :=
  '"' :: escapeChars cell.toList ++ ['"']

/-- The line of a row. -/
def writeRow (cells : List String) : List Char :=
  [',', ' '].intercalate (cells.map writeCell)

/-- The text of what a view shows. -/
def write (view : View) : String :=
  String.ofList (['\n'].intercalate ((List.range view.rowCount).map fun row => writeRow (view.row row)))

/-- What is wrong with a line. -/
inductive Fault where
  | openingQuote
  | unterminated
  | separator
deriving DecidableEq

namespace Fault

/-- The text of a fault. -/
def message : Fault → String
  | .openingQuote => "expected opening quote"
  | .unterminated => "unterminated cell"
  | .separator => "expected \", \" between cells"

end Fault

/-- A fault and the line it is on, counted from one. -/
structure Error where
  line : Nat
  fault : Fault
deriving DecidableEq

/-- The text of an error. -/
def Error.message (error : Error) : String :=
  "Invalid delimited content at line " ++ Nat.repr error.line ++ ": " ++ error.fault.message

/-- Read a cell up to its closing quote: its text with the quotes undoubled, and what
follows. -/
def readCell? : List Char → Option (List Char × List Char)
  | [] => none
  | '"' :: '"' :: rest => (readCell? rest).map fun (cell, rest) => ('"' :: cell, rest)
  | '"' :: rest => some ([], rest)
  | character :: rest => (readCell? rest).map fun (cell, rest) => (character :: cell, rest)

/-- A cell whose backslashes with an `n` are line feeds. -/
def unescapeLines : List Char → List Char
  | [] => []
  | '\\' :: 'n' :: rest => '\n' :: unescapeLines rest
  | character :: rest => character :: unescapeLines rest

theorem length_lt_of_readCell? {characters cell rest : List Char}
    (read : readCell? characters = some (cell, rest)) : rest.length < characters.length := by
  fun_induction readCell? characters generalizing cell rest with
  | case1 => simp at read
  | case2 tail ih =>
      obtain ⟨⟨inner, after⟩, found, equal⟩ := Option.map_eq_some_iff.mp read
      have shorter := ih found
      simp only [Prod.mk.injEq] at equal
      obtain ⟨_, same⟩ := equal
      subst same
      simp only [List.length_cons]
      omega
  | case3 tail _ =>
      simp only [Option.some.injEq, Prod.mk.injEq] at read
      obtain ⟨_, same⟩ := read
      subst same
      simp
  | case4 character tail _ _ ih =>
      obtain ⟨⟨inner, after⟩, found, equal⟩ := Option.map_eq_some_iff.mp read
      have shorter := ih found
      simp only [Prod.mk.injEq] at equal
      obtain ⟨_, same⟩ := equal
      subst same
      simp only [List.length_cons]
      omega

/-- The first cell of a line and what follows the separator after it, if one does. -/
def firstCell : List Char → Except Fault (List Char × Option (List Char))
  | '"' :: afterQuote =>
      match readCell? afterQuote with
      | none => .error .unterminated
      | some (cell, []) => .ok (cell, none)
      | some (cell, ',' :: ' ' :: following) => .ok (cell, some following)
      | some _ => .error .separator
  | _ => .error .openingQuote

theorem length_lt_of_firstCell {line cell following : List Char}
    (first : firstCell line = .ok (cell, some following)) : following.length < line.length := by
  unfold firstCell at first
  split at first
  · next afterQuote =>
      split at first
      · simp at first
      · simp at first
      · next found =>
          have shorter := length_lt_of_readCell? found
          simp only [Except.ok.injEq, Prod.mk.injEq, Option.some.injEq] at first
          obtain ⟨_, same⟩ := first
          subst same
          simp only [List.length_cons] at shorter ⊢
          omega
      · simp at first
  · simp at first

/-- The cells of a line. -/
def readLine (line : List Char) : Except Fault (List String) :=
  if line = [] then .ok []
  else
    match _first : firstCell line with
    | .error fault => .error fault
    | .ok (cell, none) => .ok [String.ofList (unescapeLines cell)]
    | .ok (cell, some following) =>
        (readLine following).map (String.ofList (unescapeLines cell) :: ·)
termination_by line.length
decreasing_by exact length_lt_of_firstCell _first

/-- The rows of lines, the first of which has a given number. -/
def readLines (number : Nat) : List (List Char) → Except Error (List (List String))
  | [] => .ok []
  | line :: lines =>
      match readLine line with
      | .error fault => .error ⟨number, fault⟩
      | .ok row => (readLines (number + 1) lines).map (row :: ·)

/-- The grid that a text denotes; an empty text is the empty grid. -/
def read (text : String) : Except Error Grid :=
  if text = "" then .ok Grid.empty
  else (readLines 1 (Text.splitChars '\n' text.toList)).map Grid.ofRows

end TypedSheets.Delimited
