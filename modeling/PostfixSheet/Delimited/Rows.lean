import PostfixSheet.Text.Lines

/-! Delimited text: a line for every row and a delimiter between the fields of a
row. Nothing is quoted, so every delimiter starts a new field. Written text ends
every row with a line feed. -/
namespace PostfixSheet.Delimited

def parse (delimiter : Char) (text : String) : List (List String) :=
  (Text.lines text.toList).map fun line => (line.splitOn delimiter).map String.ofList

def renderRow (delimiter : Char) (fields : List String) : List Char :=
  [delimiter].intercalate (fields.map String.toList) ++ ['\n']

def render (delimiter : Char) (rows : List (List String)) : String :=
  String.ofList (rows.flatMap (renderRow delimiter))

end PostfixSheet.Delimited
