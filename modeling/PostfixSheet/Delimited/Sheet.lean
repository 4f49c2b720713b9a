import PostfixSheet.Delimited.Rows
import PostfixSheet.Delimited.Format
import PostfixSheet.Sheet.Basic

/-! Sheets as delimited text. A text is read cell by cell as expressions and
written cell by cell as values; a cell without a value is written as the marker.
-/
namespace PostfixSheet.Sheet

def ofText (delimiter : Char) (text : String) : Sheet := ofRows (Delimited.parse delimiter text)

/-- The text of a cell in a row of values. -/
def cellText (marker : String) (cell : Cell) : String :=
  match cell.value with
  | some value => value.display marker
  | none => marker

def render (format : Format) (sheet : Sheet) : String :=
  Delimited.render format.delimiter
    ((sheet.map (cellText format.marker)).rows.toList.map Array.toList)

end PostfixSheet.Sheet
