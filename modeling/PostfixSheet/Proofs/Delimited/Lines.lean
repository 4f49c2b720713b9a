import PostfixSheet.Delimited.Rows
import PostfixSheet.Proofs.Text.Lines

/-! Rows and the lines that they are written as. A row is written as its fields with the
delimiter between them, so the rows that are read from a text, written again, are its
lines with a line feed each: reading loses nothing but the carriage returns of the line
endings. The other way around written rows are read back if no row is broken by a line
feed or ends with a carriage return, and no field holds the delimiter. -/
namespace PostfixSheet.Delimited
open Text

variable {delimiter : Char} {fields : List String} {rows : List (List String)} {text : String}

def joined (delimiter : Char) (fields : List String) : List Char :=
  [delimiter].intercalate (fields.map String.toList)

/-- Written rows are lines, each with its line feed. -/
theorem toList_render (delimiter : Char) (rows : List (List String)) :
    (render delimiter rows).toList = (rows.map (joined delimiter)).flatMap (· ++ ['\n']) := by
  rw [render, String.toList_ofList, List.flatMap_map]
  rfl

/-- Each row is one line: no line feed breaks it, and no carriage return at its end would
pass for a part of the line ending. -/
structure AreLines (delimiter : Char) (rows : List (List String)) : Prop where
  unbroken : ∀ fields ∈ rows, '\n' ∉ joined delimiter fields
  clean : ∀ fields ∈ rows, (joined delimiter fields).getLast? ≠ some '\r'

theorem mem_of_mem_joined {char : Char} (member : char ∈ joined delimiter fields) :
    char = delimiter ∨ ∃ field ∈ fields, char ∈ field.toList := by
  rcases mem_of_mem_intercalate member with between | ⟨piece, listed, inPiece⟩
  · exact .inl between
  · obtain ⟨field, inRow, rfl⟩ := List.mem_map.mp listed
    exact .inr ⟨field, inRow, inPiece⟩

theorem joined_infix_render (listed : fields ∈ rows) :
    joined delimiter fields ++ ['\n'] <:+: (render delimiter rows).toList := by
  rw [toList_render, List.flatMap_map, List.flatMap]
  exact List.infix_of_mem_flatten (List.mem_map_of_mem listed)

/-- Fields without line feeds make lines, unless the written text has a carriage return
in front of a line feed. -/
theorem AreLines.of_fields (separates : delimiter ≠ '\n')
    (unbroken : ∀ fields ∈ rows, ∀ field ∈ fields, '\n' ∉ field.toList)
    (clean : ¬['\r', '\n'] <:+: (render delimiter rows).toList) : AreLines delimiter rows where
  unbroken := by
    intro fields listed feed
    rcases mem_of_mem_joined feed with same | ⟨field, inRow, inField⟩
    · exact separates same.symm
    · exact unbroken fields listed field inRow inField
  clean := by
    intro fields listed last
    obtain ⟨front, ended⟩ := List.getLast?_eq_some_iff.mp last
    have ending : ['\r', '\n'] <:+: joined delimiter fields ++ ['\n'] := by
      rw [ended, List.append_assoc]
      exact (List.suffix_append front ['\r', '\n']).isInfix
    exact clean (ending.trans (joined_infix_render listed))

theorem AreLines.parse_render (areLines : AreLines delimiter rows) :
    parse delimiter (render delimiter rows) =
      rows.map fun fields => ((joined delimiter fields).splitOn delimiter).map String.ofList := by
  have read : lines ((rows.map (joined delimiter)).flatMap (· ++ ['\n'])) =
      rows.map (joined delimiter) :=
    lines_flatMap (List.forall_mem_map.mpr areLines.unbroken)
      (List.forall_mem_map.mpr areLines.clean)
  rw [parse, toList_render, read, List.map_map]
  rfl

theorem splitOn_joined (present : fields ≠ [])
    (apart : ∀ field ∈ fields, delimiter ∉ field.toList) :
    ((joined delimiter fields).splitOn delimiter).map String.ofList = fields := by
  have separate : ∀ piece ∈ fields.map String.toList, delimiter ∉ piece :=
    List.forall_mem_map.mpr apart
  have texts : String.ofList ∘ String.toList = id := funext fun _ => String.ofList_toList
  rw [joined, List.splitOn_intercalate delimiter separate (by simpa using present), List.map_map,
    texts, List.map_id]

/-- Rows that are lines are read back if no field holds the delimiter. -/
theorem AreLines.parse_render_of_apart (areLines : AreLines delimiter rows)
    (present : ∀ fields ∈ rows, fields ≠ [])
    (apart : ∀ fields ∈ rows, ∀ field ∈ fields, delimiter ∉ field.toList) :
    parse delimiter (render delimiter rows) = rows := by
  rw [areLines.parse_render]
  refine (List.map_congr_left fun fields listed => ?_).trans (List.map_id rows)
  exact splitOn_joined (present fields listed) (apart fields listed)

theorem joined_splitOn (delimiter : Char) (line : List Char) :
    joined delimiter ((line.splitOn delimiter).map String.ofList) = line := by
  have chars : String.toList ∘ String.ofList = id := funext fun _ => String.toList_ofList
  rw [joined, List.map_map, chars, List.map_id, List.intercalate_splitOn]

theorem map_joined_parse (delimiter : Char) (text : String) :
    (parse delimiter text).map (joined delimiter) = lines text.toList := by
  rw [parse, List.map_map]
  exact (List.map_congr_left fun line _ => joined_splitOn delimiter line).trans (List.map_id _)

theorem ne_nil_of_mem_parse (listed : fields ∈ parse delimiter text) : fields ≠ [] := by
  obtain ⟨line, _, rfl⟩ := List.mem_map.mp listed
  exact mt List.map_eq_nil_iff.mp (List.splitOn_ne_nil delimiter line)

/-- A field has neither the delimiter nor a line feed in it. -/
theorem not_mem_of_mem_parse (listed : fields ∈ parse delimiter text) {field : String}
    (member : field ∈ fields) : delimiter ∉ field.toList ∧ '\n' ∉ field.toList := by
  obtain ⟨line, inText, rfl⟩ := List.mem_map.mp listed
  obtain ⟨piece, inLine, rfl⟩ := List.mem_map.mp member
  rw [String.toList_ofList]
  constructor
  · exact fun inside => (mem_of_mem_piece inLine inside).1 rfl
  · exact fun feed => feed_not_mem_of_mem_lines inText (mem_of_mem_piece inLine feed).2

/-- Reading loses nothing: the rows that are read, written again, are the text but for
the carriage returns of its line endings and the line feed that it lacks. Every row has
a field, the fields are what stands between delimiters and line feeds, and a text
without characters has no row. -/
theorem render_parse (delimiter : Char) (text : String) :
    (render delimiter (parse delimiter text)).toList =
        dropReturns text.toList ++ missingFeed text.toList ∧
      (∀ fields ∈ parse delimiter text, fields ≠ [] ∧
        ∀ field ∈ fields, delimiter ∉ field.toList ∧ '\n' ∉ field.toList) ∧
      parse delimiter "" = [] := by
  refine ⟨?_, fun fields listed => ?_, rfl⟩
  · rw [toList_render, map_joined_parse, flatMap_lines]
  · exact ⟨ne_nil_of_mem_parse listed, fun field member => not_mem_of_mem_parse listed member⟩

/-- Two carriage returns in front of a line feed, an empty line, empty fields, and a
carriage return at the end of the text. -/
theorem render_parse_stray_returns :
    let text := "1;\r\r\n\r\n;2 A1 +\r"
    parse ';' text = [["1", "\r"], [""], ["", "2 A1 +\r"]] ∧
      (render ';' (parse ';' text)).toList = "1;\r\n\n;2 A1 +\r\n".toList ∧
      ';' ∉ "2 A1 +\r".toList := by
  intro text
  have read : parse ';' text = [["1", "\r"], [""], ["", "2 A1 +\r"]] := by decide +kernel
  obtain ⟨written, fields, _⟩ := render_parse ';' text
  have last : ["", "2 A1 +\r"] ∈ parse ';' text := read ▸ by decide
  refine ⟨read, written.trans (by decide +kernel), ?_⟩
  exact ((fields _ last).2 _ (by decide)).1

end PostfixSheet.Delimited
