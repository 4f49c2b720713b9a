/-! Lines of a text. A line ends with a line feed, and a carriage return right
before the line feed belongs to the ending. What follows the last line feed is a
line of its own unless it is empty, and it keeps a carriage return at its end. -/
namespace PostfixSheet.Text

/-- A line without the carriage return of its ending. -/
def dropReturn (line : List Char) : List Char :=
  if line.getLast? = some '\r' then line.dropLast else line

def lines (text : List Char) : List (List Char) :=
  let pieces := text.splitOn '\n'
  pieces.dropLast.map dropReturn ++ (pieces.getLast?.filter (!·.isEmpty)).toList

end PostfixSheet.Text
