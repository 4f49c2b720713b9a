import PostfixSheet.Proofs.Document.Shape

/-! Printing and reading again. What an evaluated document is printed as can be read
as a document itself, where the fields are expressions. A printed number is one
literal and comes to the number, up to the sign of a zero; rounding and printing do
not move it. The marker is one word, which is no literal and, unless it is shaped like
a written address, no reference, so it comes to an error and is printed as the marker.
Evaluating what was printed and printing it again changes nothing. -/
namespace PostfixSheet

namespace Formula

theorem evaluate_text (lookup : Address → Option Value) {number : Binary64}
    (finite : number.isFinite = true) (rounded : number.roundToTenth = number) :
    evaluate lookup number.text = .ok number.withoutZeroSign := by
  have tokens := Binary64.ofExpression_text finite
  rw [rounded] at tokens
  exact evaluate_of_literal tokens (number.isFinite_withoutZeroSign.trans finite)

/-- A marker is a faulty expression: it lacks operands or means nothing. -/
theorem exists_fault_of_marker (lookup : Address → Option Value) {marker : String}
    {delimiter : Char} (accepted : Format.checkMarker marker delimiter = .ok ())
    (unwritten : Address.isWritten marker.toList = false) :
    ∃ fault, evaluate lookup marker = .error fault := by
  obtain ⟨visible, wordy, _⟩ := Format.checkMarker_eq_ok_iff.mp accepted
  have single : evaluate lookup marker = evaluateTokens lookup [Token.ofWord marker.toList] := by
    rw [evaluate, Token.ofExpression_of_visible visible]
  have noLiteral : Literal.ofText? marker.toList = none := by
    rw [Option.eq_none_iff_forall_not_mem]
    intro literal read
    rw [Literal.isNumber_of_ofText? read] at wordy
    contradiction
  rw [single]
  cases known : Operator.ofChars? marker.toList with
  | some kind =>
    have token : Token.ofWord marker.toList = .operator kind := by
      simp only [Token.ofWord, known]
    rw [token]
    exact ⟨.stackUnderflow, rfl⟩
  | none =>
    have token : Token.ofWord marker.toList = .invalid (String.ofList marker.toList) := by
      simp only [Token.ofWord, known, noLiteral, unwritten, Bool.false_eq_true, if_false]
    rw [token]
    exact ⟨.invalidToken _, rfl⟩

end Formula

namespace Sheet

variable {sheet : Sheet} {address : Address} {marker : String} {delimiter : Char}

theorem ofRows_rows (table : Table String) :
    ofRows (table.rows.toList.map Array.toList) =
      table.map fun field => { expression := field } := by
  obtain ⟨⟨rows⟩⟩ := table
  simp only [ofRows, Table.map, List.map_toArray, List.map_map, Function.comp_def]
  congr 2
  exact List.map_congr_left fun fields _ => by simp [Array.ext_iff]

theorem get?_ofRows_printed :
    (ofRows (sheet.printed marker)).get? address =
      (sheet.get? address).map fun cell => { expression := cellText marker cell } := by
  rw [printed, ofRows_rows, Table.get?_map, Table.get?_map, Option.map_map]
  rfl

theorem valueAt?_recalculate_printed (sheet : Sheet)
    (accepted : Format.checkMarker marker delimiter = .ok ())
    (unwritten : Address.isWritten marker.toList = false) (address : Address) :
    Option.Rel Value.Alike (sheet.recalculate.1.valueAt? address)
      ((ofRows (sheet.recalculate.1.printed marker)).recalculate.1.valueAt? address) := by
  cases found : sheet.recalculate.1.get? address with
  | none =>
    have outside : (ofRows (sheet.recalculate.1.printed marker)).get? address = none := by
      rw [get?_ofRows_printed, found, Option.map_none]
    rw [valueAt?, valueAt?, found, get?_recalculate_eq_none outside]
    exact .none
  | some cell =>
    have inSheet : (ofRows (sheet.recalculate.1.printed marker)).get? address =
        some { expression := cellText marker cell } := by
      rw [get?_ofRows_printed, found, Option.map_some]
    rcases cellText_recalculate marker found with ⟨number, stored, shown⟩ | ⟨stored, shown⟩
    · have rounded := roundToTenth_of_valueAt?_recalculate stored
      have evaluated := Formula.evaluate_text
        (ofRows (sheet.recalculate.1.printed marker)).recalculate.1.valueAt?
        (isFinite_of_valueAt?_recalculate stored) rounded
      have alike := number.alike_withoutZeroSign.roundToTenth
      rw [rounded] at alike
      rw [stored, valueAt?_recalculate_of_ok inSheet ((congrArg _ shown).trans evaluated)]
      exact .some (.number alike)
    · obtain ⟨fault, failed⟩ := Formula.exists_fault_of_marker
        (ofRows (sheet.recalculate.1.printed marker)).recalculate.1.valueAt? accepted unwritten
      rw [stored, valueAt?_recalculate_of_error inSheet ((congrArg _ shown).trans failed)]
      exact .some .error

theorem printed_recalculate_printed (sheet : Sheet)
    (accepted : Format.checkMarker marker delimiter = .ok ())
    (unwritten : Address.isWritten marker.toList = false) :
    (ofRows (sheet.recalculate.1.printed marker)).recalculate.1.printed marker =
      sheet.recalculate.1.printed marker := by
  have widths : sheet.recalculate.1.widths =
      (ofRows (sheet.recalculate.1.printed marker)).recalculate.1.widths := by
    have again := widths_recalculate (ofRows (sheet.recalculate.1.printed marker))
    rw [widths_ofRows, map_length_printed] at again
    exact again.symm
  have same := map_cellText_eq_of_alike marker widths
    (valueAt?_recalculate_printed sheet accepted unwritten)
  rw [printed, ← same, printed]

end Sheet

namespace Document

/-- What an evaluated document is printed as, read, evaluated and printed once more, is
what was printed. The delimiter is one that no number has in it, and the marker is
not shaped like a written address. -/
theorem render_evaluate_render (text : String) {name marker : String} {delimiter : Char}
    (read : Format.readDelimiter name = .ok delimiter)
    (foreign : Binary64.isNumberChar delimiter = false)
    (accepted : Format.checkMarker marker delimiter = .ok ())
    (unwritten : Address.isWritten marker.toList = false) :
    let out := (ofText delimiter text).evaluate.1.render ⟨delimiter, marker⟩
    (ofText delimiter out).evaluate.1.render ⟨delimiter, marker⟩ = out := by
  intro out
  have apart := (Format.readDelimiter_eq_ok_iff.mp read).2
  let sheet := Sheet.ofText delimiter text
  have words : Delimited.AreWords (sheet.recalculate.1.printed marker) :=
    areWords_printed_ofText text accepted
  have separate : ∀ fields ∈ sheet.recalculate.1.printed marker, ∀ field ∈ fields,
      delimiter ∉ field.toList :=
    (Sheet.delimiter_not_mem_printed_iff accepted).mpr fun _ _ =>
      Sheet.delimiter_not_mem_text foreign
  have printed : out = Delimited.render delimiter (sheet.recalculate.1.printed marker) :=
    render_evaluate (ofText delimiter text) ⟨delimiter, marker⟩
  have reread : Sheet.ofText delimiter out = .ofRows (sheet.recalculate.1.printed marker) := by
    rw [Sheet.ofText, printed, Delimited.parse_render_of_apart apart words separate]
  rw [render_evaluate, ofText, reread, Sheet.printed_recalculate_printed sheet accepted unwritten,
    printed]

/-- A rounded quotient, a negative zero and two cells in error, one of them printed as
an operator. -/
theorem render_evaluate_render_past_errors :
    let text := "2 3 /;-0.01\n1 0 /;B2\n"
    let out := (ofText ';' text).evaluate.1.render ⟨';', "*"⟩
    Format.readDelimiter ";" = .ok ';' ∧ Format.checkMarker "*" ';' = .ok () ∧
      (ofText ';' out).evaluate.1.render ⟨';', "*"⟩ = out := by
  intro text out
  have read : Format.readDelimiter ";" = .ok ';' := by decide
  have accepted : Format.checkMarker "*" ';' = .ok () := by decide
  have again := render_evaluate_render text read (by decide) accepted (by decide)
  exact ⟨read, accepted, again⟩

end Document

end PostfixSheet
