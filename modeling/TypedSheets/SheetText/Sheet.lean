import TypedSheets.Grid.Basic
import TypedSheets.SheetText.Records
import TypedSheets.Text.Blank
import TypedSheets.Text.Charset

/-!
# Sheets in delimited text

From the bytes of a file to its grid: the encoding is told from the bytes, the
delimiter from the first line, and every record with a cell that is not blank becomes
a row.
-/

namespace TypedSheets.SheetText

/-- A record, counted from one, whose fields are no text. -/
structure Error where
  record : Nat
deriving DecidableEq

/-- A parsed sheet and what was found out about its text. -/
structure Sheet where
  grid : Grid
  encoding : String
  delimiter : Char

/-- The delimiters that are looked for, the first of equally frequent ones winning. -/
def delimiters : List Char := [',', ';', '\t', '|']

/-- The delimiter that the first line holds most often; a comma where it holds
none. -/
def detectDelimiter (text : String) : Char :=
  let line := text.toList.takeWhile (· ≠ '\n')
  (delimiters.foldl
    (fun (best : Char × Nat) delimiter =>
      let count := line.count delimiter
      if best.2 < count then (delimiter, count) else best)
    (',', 0)).1

/-- The texts of the fields of records, the first of which has a given number. -/
def decodeRecords (number : Nat) : List (List (List UInt8)) → Except Error (List (List String))
  | [] => .ok []
  | fields :: rest =>
      match fields.mapM Text.Utf8.decode? with
      | none => .error ⟨number⟩
      | some cells => (decodeRecords (number + 1) rest).map (cells :: ·)

/-- The grid of a delimited text; records of blank cells only are left out. A
delimiter stands for the byte that the low eight bits of its code point make. -/
def parse (text : String) (delimiter : Char) : Except Error Grid :=
  (decodeRecords 1 (records (UInt8.ofNat delimiter.toNat) text.toUTF8.data.toList)).map
    fun rows => Grid.ofRows (rows.filter fun cells => !cells.all Text.blank)

/-- The sheet that the bytes of a file hold. -/
def read (bytes : ByteArray) : Except Error Sheet :=
  let encoding := Text.Charset.detect bytes
  let text := Text.Charset.decode bytes encoding
  let delimiter := detectDelimiter text
  (parse text delimiter).map fun grid => { grid, encoding, delimiter }

end TypedSheets.SheetText
