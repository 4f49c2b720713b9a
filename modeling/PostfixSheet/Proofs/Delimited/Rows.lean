import PostfixSheet.Proofs.Delimited.Lines
import PostfixSheet.Proofs.Formula.Words

/-! Reading written rows. Fields that are words have no line feed in them, and the last
character of a row is not a carriage return, so there are as many lines as rows.
Within a row every delimiter starts a field: there is one more field than there are
delimiters, and the fields are read back as they were written if none of them has the
delimiter in it. -/
namespace PostfixSheet

namespace Text

variable {separator : Char} {pieces : List (List Char)}

theorem length_splitOn (separator : Char) (text : List Char) :
    (text.splitOn separator).length = text.count separator + 1 := by
  induction text with
  | nil => rfl
  | cons first rest ih =>
    rw [List.splitOn_cons_eq_if_modifyHead, List.count_cons]
    split
    · rw [List.length_cons, ih]
    · rw [List.length_modifyHead, ih, Nat.add_zero]

theorem count_intercalate (separator : Char) (present : pieces ≠ []) :
    ([separator].intercalate pieces).count separator + 1 =
      pieces.length + (pieces.map (List.count separator)).sum := by
  induction pieces with
  | nil => contradiction
  | cons first rest ih =>
    cases rest with
    | nil =>
      rw [List.intercalate_singleton, List.length_singleton, List.map_cons, List.map_nil,
        List.sum_cons, List.sum_nil, Nat.add_zero]
      exact Nat.add_comm ..
    | cons second rest =>
      have tail := ih (List.cons_ne_nil _ _)
      rw [List.intercalate_cons_cons, List.count_append, List.count_append,
        List.count_singleton_self, List.map_cons, List.sum_cons, List.length_cons]
      omega

end Text

namespace Delimited
open Text

variable {delimiter : Char} {fields : List String} {rows : List (List String)}

/-- Rows as a sheet is printed: every row has a field, and the fields are words. -/
structure AreWords (rows : List (List String)) : Prop where
  ne_nil : ∀ fields ∈ rows, fields ≠ []
  visible : ∀ fields ∈ rows, ∀ field ∈ fields, IsVisible field.toList

theorem not_blank_of_mem_joined (apart : isBlank delimiter = false)
    (visible : ∀ field ∈ fields, IsVisible field.toList) {char : Char}
    (member : char ∈ joined delimiter fields) : isBlank char = false := by
  rcases mem_of_mem_joined member with rfl | ⟨field, inRow, inField⟩
  · exact apart
  · exact (visible field inRow).not_blank char inField

/-- Words have no line feed in them, and the last character of a row is no carriage
return. -/
theorem AreWords.areLines (words : AreWords rows) (apart : isBlank delimiter = false) :
    AreLines delimiter rows where
  unbroken := by
    intro fields listed feed
    have visible := not_blank_of_mem_joined apart (words.visible fields listed) feed
    contradiction
  clean := by
    intro fields listed last
    have visible :=
      not_blank_of_mem_joined apart (words.visible fields listed) (List.mem_of_getLast? last)
    contradiction

theorem parse_render (apart : isBlank delimiter = false) (words : AreWords rows) :
    parse delimiter (render delimiter rows) =
      rows.map fun fields => ((joined delimiter fields).splitOn delimiter).map String.ofList :=
  (words.areLines apart).parse_render

/-- A row is read with one more field for each delimiter in its fields. -/
theorem length_splitOn_joined (present : fields ≠ []) :
    ((joined delimiter fields).splitOn delimiter).length =
      fields.length + (fields.map (·.toList.count delimiter)).sum := by
  rw [length_splitOn, joined, count_intercalate delimiter (by simpa using present),
    List.length_map, List.map_map]
  rfl

/-- Rows are read with the lengths that they were written with, exactly if no field has
the delimiter in it. -/
theorem lengths_parse_render_iff (apart : isBlank delimiter = false) (words : AreWords rows) :
    (parse delimiter (render delimiter rows)).map List.length = rows.map List.length ↔
      ∀ fields ∈ rows, ∀ field ∈ fields, delimiter ∉ field.toList := by
  have row_iff : ∀ fields ∈ rows,
      (((joined delimiter fields).splitOn delimiter).map String.ofList).length = fields.length ↔
        ∀ field ∈ fields, delimiter ∉ field.toList := by
    intro fields listed
    rw [List.length_map, length_splitOn_joined (words.ne_nil fields listed), Nat.add_eq_left,
      List.sum_eq_zero_iff_forall_eq_nat]
    simp only [List.forall_mem_map, List.count_eq_zero]
  rw [parse_render apart words, List.map_map, List.map_inj_left]
  exact forall_congr' fun fields => forall_congr' fun listed => row_iff fields listed

theorem parse_render_of_apart (apart : isBlank delimiter = false) (words : AreWords rows)
    (separate : ∀ fields ∈ rows, ∀ field ∈ fields, delimiter ∉ field.toList) :
    parse delimiter (render delimiter rows) = rows :=
  (words.areLines apart).parse_render_of_apart words.ne_nil separate

end Delimited

end PostfixSheet
