import PostfixSheet.Proofs.Document.Evaluation
import PostfixSheet.Proofs.Evaluation.Finiteness
import PostfixSheet.Proofs.Formula.Likeness
import PostfixSheet.Proofs.Formula.Words

/-! What an evaluated document shows. A cell shows the marker or a plain decimal, and
the marker stands for errors only: a stored number is finite and rounded, so its text
is a literal, and the check of the marker refuses every literal. -/
namespace PostfixSheet

namespace Format
open Text

theorem checkMarker_eq_ok_iff {marker : String} {delimiter : Char} :
    checkMarker marker delimiter = .ok () ↔ IsVisible marker.toList ∧
      Spelling.isNumber marker.toList = false ∧ delimiter ∉ marker.toList := by
  have visible_iff :
      (marker.toList.isEmpty || marker.toList.any isBlank) = false ↔ IsVisible marker.toList := by
    rw [Bool.or_eq_false_iff, List.isEmpty_eq_false_iff, List.any_eq_false]
    constructor
    · rintro ⟨nonempty, clean⟩
      exact ⟨nonempty, fun char member => by simpa using clean char member⟩
    · rintro ⟨nonempty, clean⟩
      exact ⟨nonempty, fun char member => by simp [clean char member]⟩
  rw [← visible_iff]
  simp only [checkMarker]
  split
  · rename_i blank
    simp [blank]
  · rename_i visible
    split
    · rename_i number
      simp [number]
    · rename_i wordy
      split
      · rename_i inside
        simp [List.contains_iff_mem.mp inside]
      · rename_i apart
        have absent : delimiter ∉ marker.toList :=
          fun inside => apart (List.contains_iff_mem.mpr inside)
        exact iff_of_true rfl ⟨by simpa using visible, by simpa using wordy, absent⟩

end Format

namespace Binary64

variable {number : Binary64}

theorem isPlain_text (finite : number.isFinite = true) :
    Decimal.isPlain number.text.toList = true ∧ number.text ≠ "-0" := by
  obtain ⟨negative, code, rounded, settled⟩ := exists_settled_of_isFinite finite
  obtain ⟨plain, signless⟩ := isPlain_plainText negative settled
  rw [← rounded, ← toList_text] at plain signless
  refine ⟨plain, fun same => signless ?_⟩
  rw [same]
  rfl

/-- A marker that was accepted is not the text of a finite number. -/
theorem text_ne_of_checkMarker (finite : number.isFinite = true) {marker : String}
    {delimiter : Char} (accepted : Format.checkMarker marker delimiter = .ok ()) :
    number.text ≠ marker := by
  rintro rfl
  have wordy := (Format.checkMarker_eq_ok_iff.mp accepted).2.1
  obtain ⟨negative, code, rounded, _⟩ := exists_settled_of_isFinite finite
  obtain ⟨literal, read, _⟩ := exists_literal_plainText negative code
  rw [toList_text, rounded, Literal.isNumber_of_ofText? read] at wordy
  contradiction

end Binary64

namespace Sheet

theorem map_cellText_eq_of_alike {left right : Sheet} (marker : String)
    (widths : left.widths = right.widths)
    (values : ∀ address, Option.Rel Value.Alike (left.valueAt? address) (right.valueAt? address)) :
    left.map (cellText marker) = right.map (cellText marker) := by
  have same : ∀ cell other : Cell, Option.Rel Value.Alike cell.value other.value →
      cellText marker cell = cellText marker other := by
    intro cell other alike
    unfold cellText
    generalize cell.value = value at alike ⊢
    generalize other.value = otherValue at alike ⊢
    cases alike with
    | none => rfl
    | some values => exact values.display_eq marker
  apply Table.ext_get?
  · rw [Table.widths_map, Table.widths_map, widths]
  · intro address
    have shape : (left.get? address).isSome = (right.get? address).isSome := by
      rw [Bool.eq_iff_iff, Table.isSome_get?_iff, Table.isSome_get?_iff, widths]
    have alike := values address
    rw [valueAt?, valueAt?] at alike
    rw [Table.get?_map, Table.get?_map]
    cases inLeft : left.get? address with
    | none =>
      cases inRight : right.get? address with
      | none => rfl
      | some other => simp [inLeft, inRight] at shape
    | some cell =>
      cases inRight : right.get? address with
      | none => simp [inLeft, inRight] at shape
      | some other =>
        rw [inLeft, inRight] at alike
        exact congrArg some (same cell other alike)

end Sheet

namespace Document

variable {address : Address} {marker : String} {value : Value}

theorem display_of_valueAt? {document : Document}
    (stored : document.sheet.valueAt? address = some value) :
    document.display address marker = value.display marker := by
  rw [display, stored, Option.map_some, Option.getD_some]

/-- After an evaluation every cell shows the marker or a plain decimal, and it shows
the marker exactly if it holds an error. Whatever values a sheet held before, the
numbers that a recalculation stores are finite. -/
theorem display_evaluate (document : Document) {delimiter : Char}
    (accepted : Format.checkMarker marker delimiter = .ok ()) :
    (∀ address, (document.sheet.get? address).isSome →
      let shown := document.evaluate.1.display address marker
      ∃ value, document.evaluate.1.sheet.valueAt? address = some value ∧
        (shown = marker ∨ Decimal.isPlain shown.toList = true ∧ shown ≠ "-0") ∧
        (shown = marker ↔ value = .error)) ∧
    ∀ (sheet : Sheet) (address : Address) (number : Binary64),
      sheet.recalculate.1.valueAt? address = some (.number number) → number.isFinite = true := by
  constructor
  · intro address inside shown
    obtain ⟨value, stored⟩ := Sheet.exists_valueAt?_recalculate inside
    have evaluated : document.evaluate.1.sheet.valueAt? address = some value := by
      rw [fst_evaluate]
      exact stored
    have same : shown = value.display marker := display_of_valueAt? evaluated
    refine ⟨value, evaluated, ?_⟩
    rw [same]
    cases value with
    | error => exact ⟨.inl rfl, iff_of_true rfl rfl⟩
    | number number =>
      have finite := Sheet.isFinite_of_valueAt?_recalculate stored
      constructor
      · exact .inr (Binary64.isPlain_text finite)
      · exact iff_of_false (Binary64.text_ne_of_checkMarker finite accepted) nofun
  · intro sheet address number stored
    exact Sheet.isFinite_of_valueAt?_recalculate stored

/-- A quotient that has to be rounded, beside a cell in error. -/
theorem display_evaluate_beside_error :
    let document := ofText ';' "1 3 /;A1 ?\n"
    Format.checkMarker "!" ';' = .ok () ∧
      ∀ address ∈ [(⟨0, 0⟩ : Address), ⟨1, 0⟩],
        let shown := document.evaluate.1.display address "!"
        ∃ value, document.evaluate.1.sheet.valueAt? address = some value ∧
          (shown = "!" ∨ Decimal.isPlain shown.toList = true ∧ shown ≠ "-0") ∧
          (shown = "!" ↔ value = .error) := by
  intro document
  have accepted : Format.checkMarker "!" ';' = .ok () := by decide
  have inside : ∀ address ∈ [(⟨0, 0⟩ : Address), ⟨1, 0⟩],
      (document.sheet.get? address).isSome := by
    decide +kernel
  have shows := (display_evaluate document accepted).1
  exact ⟨accepted, fun address member => shows address (inside address member)⟩

end Document

end PostfixSheet
