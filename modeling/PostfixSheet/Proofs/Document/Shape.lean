import PostfixSheet.Proofs.Delimited.Rows
import PostfixSheet.Proofs.Document.Display

/-! The shape of printed documents. The texts of the cells are words, so an evaluated
document is printed with one line for every row that was read. A line is read with
the same number of fields unless a number on it is printed with the delimiter among
its characters. The check of the marker keeps the delimiter out of markers, but
digits, the minus sign and the point are accepted as delimiters too: beside such a
delimiter a number can fall apart. -/
namespace PostfixSheet

namespace Table

variable {α : Type} {table : Table α} {entry : α}

theorem mem_toList_iff_rows :
    entry ∈ table.toList ↔ ∃ entries ∈ table.rows.toList.map Array.toList, entry ∈ entries := by
  simp only [toList, List.mem_flatMap, List.mem_map, exists_exists_and_eq_and]

end Table

namespace Sheet

variable {sheet : Sheet} {address : Address} {cell : Cell} {marker field : String}
  {fields : List String} {delimiter : Char}

def printed (marker : String) (sheet : Sheet) : List (List String) :=
  (sheet.map (cellText marker)).rows.toList.map Array.toList

theorem widths_ofRows (rows : List (List String)) :
    (ofRows rows).widths = rows.map List.length := by
  simp only [ofRows, Table.widths, List.map_map, Function.comp_def, List.size_toArray,
    List.length_map]

theorem map_length_printed (marker : String) (sheet : Sheet) :
    (sheet.printed marker).map List.length = sheet.widths := by
  rw [printed, List.map_map]
  exact Table.widths_map

theorem mem_printed_iff :
    (∃ fields ∈ sheet.printed marker, field ∈ fields) ↔
      ∃ address cell, sheet.get? address = some cell ∧ cellText marker cell = field := by
  rw [printed, ← Table.mem_toList_iff_rows, Table.mem_toList]
  simp only [Table.get?_map, Option.map_eq_some_iff]

theorem cellText_recalculate (marker : String)
    (found : sheet.recalculate.1.get? address = some cell) :
    (∃ number, sheet.recalculate.1.valueAt? address = some (.number number) ∧
        cellText marker cell = number.text) ∨
      sheet.recalculate.1.valueAt? address = some .error ∧ cellText marker cell = marker := by
  obtain ⟨value, stored⟩ := exists_valueAt?_recalculate (inside_of_recalculate found)
  have held : cell.value = some value := by
    rwa [valueAt?, found, Option.bind_some] at stored
  cases value with
  | number number => exact .inl ⟨number, stored, by rw [cellText, held]; rfl⟩
  | error => exact .inr ⟨stored, by rw [cellText, held]; rfl⟩

/-- Every text of a recalculated sheet is a word. -/
theorem isVisible_cellText (found : sheet.recalculate.1.get? address = some cell)
    (accepted : Format.checkMarker marker delimiter = .ok ()) :
    Text.IsVisible (cellText marker cell).toList := by
  rcases cellText_recalculate marker found with ⟨number, stored, shown⟩ | ⟨_, shown⟩
  · have finite := isFinite_of_valueAt?_recalculate stored
    rw [shown, Binary64.toList_text]
    exact Binary64.isVisible_plainText (Binary64.isFinite_roundToTenth.trans finite)
  · rw [shown]
    exact (Format.checkMarker_eq_ok_iff.mp accepted).1

/-- A sheet without empty rows is printed without empty rows. -/
theorem ne_nil_of_mem_printed (full : ∀ width ∈ sheet.widths, width ≠ 0)
    (listed : fields ∈ sheet.printed marker) : fields ≠ [] := by
  rintro rfl
  have width : List.length [] ∈ (sheet.printed marker).map List.length :=
    List.mem_map_of_mem listed
  rw [map_length_printed] at width
  exact full 0 width rfl

theorem areWords_printed (accepted : Format.checkMarker marker delimiter = .ok ())
    (full : ∀ width ∈ sheet.widths, width ≠ 0) :
    Delimited.AreWords (sheet.recalculate.1.printed marker) where
  ne_nil := by
    intro fields listed
    rw [← widths_recalculate] at full
    exact ne_nil_of_mem_printed full listed
  visible := by
    intro fields listed field member
    obtain ⟨address, cell, found, rfl⟩ := mem_printed_iff.mp ⟨fields, listed, member⟩
    exact isVisible_cellText found accepted

theorem width_ne_zero_of_mem {text : String} {width : Nat}
    (listed : width ∈ (ofText delimiter text).widths) : width ≠ 0 := by
  rw [ofText, widths_ofRows] at listed
  obtain ⟨fields, inRows, rfl⟩ := List.mem_map.mp listed
  exact mt List.length_eq_zero_iff.mp (Delimited.ne_nil_of_mem_parse inRows)

/-- Only a number can be printed with the delimiter in it. -/
theorem delimiter_not_mem_printed_iff (accepted : Format.checkMarker marker delimiter = .ok ()) :
    (∀ fields ∈ sheet.recalculate.1.printed marker, ∀ field ∈ fields, delimiter ∉ field.toList) ↔
      ∀ address number, sheet.recalculate.1.valueAt? address = some (.number number) →
        delimiter ∉ number.text.toList := by
  constructor
  · intro separate address number stored
    obtain ⟨cell, found, held⟩ := Option.bind_eq_some_iff.mp stored
    have shown : cellText marker cell = number.text := by
      rw [cellText, held]
      rfl
    obtain ⟨fields, listed, member⟩ := mem_printed_iff.mpr ⟨address, cell, found, shown⟩
    exact separate fields listed _ member
  · intro separate fields listed field member
    obtain ⟨address, cell, found, rfl⟩ := mem_printed_iff.mp ⟨fields, listed, member⟩
    rcases cellText_recalculate marker found with ⟨number, stored, shown⟩ | ⟨_, shown⟩
    · rw [shown]
      exact separate address number stored
    · rw [shown]
      exact (Format.checkMarker_eq_ok_iff.mp accepted).2.2

/-- Printed numbers are made of digits, minus signs and points. -/
theorem delimiter_not_mem_text {number : Binary64} (apart : Binary64.isNumberChar delimiter = false)
    (stored : sheet.recalculate.1.valueAt? address = some (.number number)) :
    delimiter ∉ number.text.toList := by
  intro member
  have finite := isFinite_of_valueAt?_recalculate stored
  obtain ⟨negative, code, rounded, _⟩ := Binary64.exists_settled_of_isFinite finite
  rw [Binary64.toList_text, rounded] at member
  rw [Binary64.isNumberChar_of_mem_plainText member] at apart
  contradiction

end Sheet

namespace Document

variable {name marker : String} {delimiter : Char}

theorem render_evaluate (document : Document) (format : Format) :
    document.evaluate.1.render format =
      Delimited.render format.delimiter (document.sheet.recalculate.1.printed format.marker) := by
  rw [render, sheet_evaluate]
  rfl

theorem map_length_printed_ofText (delimiter : Char) (text marker : String) :
    ((Sheet.ofText delimiter text).recalculate.1.printed marker).map List.length =
      (Delimited.parse delimiter text).map List.length := by
  rw [Sheet.map_length_printed, Sheet.widths_recalculate, Sheet.ofText, Sheet.widths_ofRows]

theorem areWords_printed_ofText (text : String)
    (accepted : Format.checkMarker marker delimiter = .ok ()) :
    Delimited.AreWords ((Sheet.ofText delimiter text).recalculate.1.printed marker) :=
  Sheet.areWords_printed accepted fun _ => Sheet.width_ne_zero_of_mem

/-- What is printed has the rows that were read. The rows have their lengths too,
exactly if no number is printed with the delimiter in it; a delimiter that is not a
digit, a minus sign or a point is in none. -/
theorem lengths_parse_render (text : String) (read : Format.readDelimiter name = .ok delimiter)
    (accepted : Format.checkMarker marker delimiter = .ok ()) :
    let document := (ofText delimiter text).evaluate.1
    let given := Delimited.parse delimiter text
    let printed := Delimited.parse delimiter (document.render ⟨delimiter, marker⟩)
    printed.length = given.length ∧
      (printed.map List.length = given.map List.length ↔
        ∀ address number, document.sheet.valueAt? address = some (.number number) →
          delimiter ∉ number.text.toList) ∧
      (Binary64.isNumberChar delimiter = false →
        printed.map List.length = given.map List.length) := by
  have apart := (Format.readDelimiter_eq_ok_iff.mp read).2
  have words := areWords_printed_ofText text accepted
  have lengths := map_length_printed_ofText delimiter text marker
  have kept_iff := Delimited.lengths_parse_render_iff apart words
  rw [lengths, Sheet.delimiter_not_mem_printed_iff accepted] at kept_iff
  intro document given printed
  have sheets : document.sheet = (Sheet.ofText delimiter text).recalculate.1 :=
    sheet_evaluate (ofText delimiter text)
  have rendered : printed = Delimited.parse delimiter (Delimited.render delimiter
      ((Sheet.ofText delimiter text).recalculate.1.printed marker)) :=
    congrArg (Delimited.parse delimiter) (render_evaluate (ofText delimiter text) _)
  rw [rendered, sheets]
  refine ⟨?_, kept_iff, ?_⟩
  · have count := congrArg List.length lengths
    rw [List.length_map, List.length_map] at count
    rw [Delimited.parse_render apart words, List.length_map, count]
  · intro foreign
    apply kept_iff.mpr
    intro address number stored
    exact Sheet.delimiter_not_mem_text foreign stored

/-- Ragged rows behind a delimiter that no number has in it. -/
theorem lengths_parse_render_ragged :
    let text := "1 2 -|oops\n\n0.25|A1|B1\n"
    let printed := Delimited.parse '|' ((ofText '|' text).evaluate.1.render ⟨'|', "?"⟩)
    Format.readDelimiter "|" = .ok '|' ∧ Format.checkMarker "?" '|' = .ok () ∧
      printed.map List.length = [2, 1, 3] := by
  intro text printed
  have read : Format.readDelimiter "|" = .ok '|' := by decide
  have accepted : Format.checkMarker "?" '|' = .ok () := by decide
  obtain ⟨_, _, kept⟩ := lengths_parse_render text read accepted
  have given : (Delimited.parse '|' text).map List.length = [2, 1, 3] := by decide +kernel
  exact ⟨read, accepted, (kept (by decide)).trans given⟩

/-- The delimiter is a digit of the sum, so that the one field is read as two. -/
theorem parse_render_splits_sum :
    (¬∀ text name marker delimiter, Format.readDelimiter name = .ok delimiter →
        Format.checkMarker marker delimiter = .ok () →
          (Delimited.parse delimiter
              ((ofText delimiter text).evaluate.1.render ⟨delimiter, marker⟩)).map List.length =
            (Delimited.parse delimiter text).map List.length) ∧
      Delimited.parse '5' "2 3 +" = [["2 3 +"]] ∧
      (ofText '5' "2 3 +").evaluate.1.render ⟨'5', "#ERR"⟩ = "5\n" ∧
      Delimited.parse '5' "5\n" = [["", ""]] := by
  have given : Delimited.parse '5' "2 3 +" = [["2 3 +"]] := by decide +kernel
  have printed : (ofText '5' "2 3 +").evaluate.1.render ⟨'5', "#ERR"⟩ = "5\n" := by
    let analyzed := (Sheet.ofText '5' "2 3 +").analyze
    have alone : analyzed.2 = [⟨0, 0⟩] := by decide +kernel
    have order : analyzed.1.schedule analyzed.2 = [⟨0, 0⟩] := by
      rw [alone]
      exact List.mergeSort_singleton _
    have recalculated : (Sheet.ofText '5' "2 3 +").recalculate.1 =
        (analyzed.1.evaluate [⟨0, 0⟩]).1 :=
      congrArg (fun listed => (analyzed.1.evaluate listed).1) order
    rw [render_evaluate, ofText, recalculated]
    decide +kernel
  have parted : Delimited.parse '5' "5\n" = [["", ""]] := by decide +kernel
  refine ⟨fun kept => ?_, given, printed, parted⟩
  have lengths := kept "2 3 +" "5" "#ERR" '5' (by decide) (by decide)
  rw [printed, given, parted] at lengths
  contradiction

end Document

end PostfixSheet
