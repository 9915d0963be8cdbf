import TypedSheets.Files.Basic
import TypedSheets.Grid.View
import TypedSheets.Json.Reader
import TypedSheets.Settings.Basic
import TypedSheets.SheetText.Sheet

/-!
# Sheet sources

Where the view of a sheet comes from. A file of delimited text is read when its data
are first asked for, and stays as it was read; rows of values are read when the source
is opened.
-/

namespace TypedSheets

/-- Why a source cannot be opened or read. -/
inductive SourceError where
  | unreadable (error : FileError)
  | valuesNotFound (path : String)
  | malformedText (error : SheetText.Error)
  | malformedValues
deriving DecidableEq

/-- The text of an error. -/
def SourceError.message : SourceError → String
  | .unreadable error => "Failed to read source: " ++ error.message
  | .valuesNotFound path => "Failed to read source: value grid not found: " ++ path
  | .malformedText error => "Invalid delimited content at line " ++ Nat.repr error.record
  | .malformedValues => "Invalid value grid"

/-- The sheet in a file of delimited text. -/
def Files.readSheet (files : Files) (path : String) : Except SourceError SheetText.Sheet :=
  match files.read path with
  | .error error => .error (.unreadable error)
  | .ok bytes =>
      match SheetText.read bytes with
      | .ok sheet => .ok sheet
      | .error error => .error (.malformedText error)

namespace SheetValues

/-- The rows of an array of arrays. -/
def rows? : Json → Option (List (List Json))
  | .null => some []
  | .array rows => rows.mapM fun
      | .array cells => some cells
      | _ => none
  | _ => none

/-- The rows in a JSON text: an array of arrays, or an object with one under
`values`. -/
def read? (text : String) : Option (List (List Json)) :=
  (Json.read? text).bind fun
    | .object entries => rows? ((entries.lookup "values").getD .null)
    | other => rows? other

end SheetValues

/-- An opened source. -/
inductive Source where
  /-- A file, with its grid once it was read. -/
  | file (path : String) (grid : Option Grid)
  | values (rows : List (List Json))

namespace Source

/-- Open a configured source. -/
def ofSpec (files : Files) : SourceSpec → Except SourceError Source
  | .file path => .ok (.file path none)
  | .values path =>
      if files.isFile path then
        match files.readText path with
        | .error error => .error (.unreadable error)
        | .ok text =>
            match SheetValues.read? text with
            | some rows => .ok (.values rows)
            | none => .error .malformedValues
      else .error (.valuesNotFound path)

/-- Whether a source has data: a file that is there, or at least one row. -/
def isAvailable (files : Files) : Source → Bool
  | .file path _ => files.isFile path
  | .values rows => !rows.isEmpty

/-- The grid of a file; the empty one where there is no readable sheet. -/
def gridOf (files : Files) (path : String) : Grid :=
  if files.isFile path then
    match files.readSheet path with
    | .ok sheet => sheet.grid
    | .error _ => Grid.empty
  else Grid.empty

/-- The view of all data, and the source after they were read. -/
def data (files : Files) : Source → View × Source
  | .file path (some grid) => (grid.view, .file path (some grid))
  | .file path none =>
      let grid := gridOf files path
      (grid.view, .file path (some grid))
  | .values rows => (View.shared (.values rows), .values rows)

end Source

/-- The view of a configured source. -/
def SourceSpec.view (files : Files) (spec : SourceSpec) : Except SourceError View :=
  (Source.ofSpec files spec).map fun source => (source.data files).1

end TypedSheets
