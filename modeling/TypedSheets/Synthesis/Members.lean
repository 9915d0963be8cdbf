import TypedSheets.Grid.View
import TypedSheets.Text.Blank
import TypedSheets.Types.EnumDef

/-!
# Enumeration sheets

The members that a sheet lists: names in the first column, values in the second, below
a row of headings. Comments and repeated names are left out.
-/

namespace TypedSheets

/-- The member of a row, if it has one. -/
def EnumMember.ofCells? (name value : String) : Option EnumMember :=
  let name := Text.trim name
  if name = "" ∨ name.toList.head? = some '#' then none
  else
    some ⟨name, (Numeral.Range.signed64.read? (Text.trimChars value.toList)).map Int64.ofInt⟩

/-- The members of which none has the name of one of `seen` or of an earlier one. -/
def EnumMember.firstOfName (seen : List String) : List EnumMember → List EnumMember
  | [] => []
  | member :: members =>
      if seen.contains member.name then firstOfName seen members
      else member :: firstOfName (member.name :: seen) members

/-- The members that a sheet lists. -/
def EnumMember.ofSheet (view : View) : List EnumMember :=
  EnumMember.firstOfName [] <|
    ((List.range view.rowCount).drop 1).filterMap fun row =>
      EnumMember.ofCells? (view.cell row 0) (view.cell row 1)

end TypedSheets
