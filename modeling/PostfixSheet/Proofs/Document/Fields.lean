import PostfixSheet.Proofs.Document.Shape

/-! Reading a written document. A document is written cell by cell as what its cells
display, row by row. Read with the same delimiter it gives these texts back, each at
the place of its cell, unless a text has the delimiter or a line feed in it or a line
ends with a carriage return, which would pass for a part of the line ending. This holds
of any values: a written infinity, an empty marker or a blank delimiter does not matter. -/
namespace PostfixSheet

namespace Table

variable {α : Type}

theorem bind_getElem?_rows (table : Table α) (address : Address) :
    (table.rows.toList.map Array.toList)[address.row]?.bind (·[address.column]?) =
      table.get? address := by
  rw [List.getElem?_map, Array.getElem?_toList, get?]
  cases table.rows[address.row]? with
  | none => rfl
  | some entries => exact Array.getElem?_toList

end Table

namespace Sheet

theorem bind_getElem?_printed (marker : String) (sheet : Sheet) (address : Address) :
    (sheet.printed marker)[address.row]?.bind (·[address.column]?) =
      (sheet.get? address).map (cellText marker) := by
  rw [printed, Table.bind_getElem?_rows, Table.get?_map]

end Sheet

namespace Document

variable {document : Document} {format : Format} {marker : String} {address : Address}

theorem display_eq_cellText {cell : Cell} (found : document.sheet.get? address = some cell)
    (valued : (document.sheet.valueAt? address).isSome) :
    document.display address marker = Sheet.cellText marker cell := by
  have held : document.sheet.valueAt? address = cell.value := by
    rw [Sheet.valueAt?, found, Option.bind_some]
  rw [held] at valued
  obtain ⟨value, stored⟩ := Option.isSome_iff_exists.mp valued
  rw [display_of_valueAt? (held.trans stored), Sheet.cellText, stored]

theorem exists_display_of_mem_printed
    (valued : ∀ address ∈ document.sheet.addresses, (document.sheet.valueAt? address).isSome)
    {fields : List String} (listed : fields ∈ document.sheet.printed marker) {field : String}
    (member : field ∈ fields) :
    ∃ address ∈ document.sheet.addresses, document.display address marker = field := by
  obtain ⟨address, cell, found, rfl⟩ := Sheet.mem_printed_iff.mp ⟨fields, listed, member⟩
  have inside : address ∈ document.sheet.addresses := Table.mem_addresses.mpr (by simp [found])
  exact ⟨address, inside, display_eq_cellText found (valued address inside)⟩

/-- Writing is undone by reading. The document has a cell in every row and a value in
every cell, the delimiter is no line feed, what the cells display has neither in it, and
no written line ends with a carriage return. -/
theorem parse_render_displays (document : Document) (format : Format)
    (full : ∀ width ∈ document.sheet.widths, width ≠ 0)
    (valued : ∀ address ∈ document.sheet.addresses, (document.sheet.valueAt? address).isSome)
    (separates : format.delimiter ≠ '\n')
    (apart : ∀ address ∈ document.sheet.addresses,
      format.delimiter ∉ (document.display address format.marker).toList ∧
        '\n' ∉ (document.display address format.marker).toList)
    (clean : ¬['\r', '\n'] <:+: (document.render format).toList) :
    let read := Delimited.parse format.delimiter (document.render format)
    read.map List.length = document.sheet.widths ∧
      ∀ address, read[address.row]?.bind (·[address.column]?) =
        (document.sheet.get? address).map fun _ => document.display address format.marker := by
  have fields : ∀ fields ∈ document.sheet.printed format.marker, ∀ field ∈ fields,
      format.delimiter ∉ field.toList ∧ '\n' ∉ field.toList := by
    intro fields listed field member
    obtain ⟨address, inside, rfl⟩ := exists_display_of_mem_printed valued listed member
    exact apart address inside
  have areLines : Delimited.AreLines format.delimiter (document.sheet.printed format.marker) :=
    .of_fields separates (fun row listed field member => (fields row listed field member).2) clean
  intro read
  have readBack : read = document.sheet.printed format.marker :=
    areLines.parse_render_of_apart (fun _ listed => Sheet.ne_nil_of_mem_printed full listed)
      fun row listed field member => (fields row listed field member).1
  rw [readBack]
  refine ⟨Sheet.map_length_printed .., fun address => ?_⟩
  rw [Sheet.bind_getElem?_printed]
  cases found : document.sheet.get? address with
  | none => rfl
  | some cell =>
    have inside : address ∈ document.sheet.addresses := Table.mem_addresses.mpr (by simp [found])
    exact congrArg some (display_eq_cellText found (valued address inside)).symm

/-- An infinity, an empty marker and a row that is written as an empty line, behind a
delimiter that is blank and not in ASCII. -/
theorem parse_render_displays_empty_marker :
    let document : Document := { sheet := ⟨#[
      #[{ expression := "A2", value := some .error },
        { expression := "1", value := some (.number (.infinite true)) }],
      #[{ expression := "", value := some .error }]]⟩ }
    let read := Delimited.parse '\u3000' (document.render ⟨'\u3000', ""⟩)
    ¬['\r', '\n'] <:+: (document.render ⟨'\u3000', ""⟩).toList ∧
      read.map List.length = [2, 1] ∧
      read[0]?.bind (·[1]?) = some "-inf" ∧ read[1]?.bind (·[0]?) = some "" := by
  intro document read
  have valued : ∀ address ∈ document.sheet.addresses,
      (document.sheet.valueAt? address).isSome := by
    decide +kernel
  have apart : ∀ address ∈ document.sheet.addresses,
      '\u3000' ∉ (document.display address "").toList ∧
        '\n' ∉ (document.display address "").toList := by
    decide +kernel
  have clean : ¬['\r', '\n'] <:+: (document.render ⟨'\u3000', ""⟩).toList := by decide +kernel
  obtain ⟨lengths, fields⟩ := parse_render_displays document ⟨'\u3000', ""⟩ (by decide) valued
    (by decide) apart clean
  exact ⟨clean, lengths, fields ⟨1, 0⟩, fields ⟨0, 1⟩⟩

end Document

end PostfixSheet
