import PostfixSheet.Proofs.Delimited.Spacing
import PostfixSheet.Proofs.Document.Evaluation
import PostfixSheet.Proofs.Evaluation.Respelling

/-! Documents in another spacing. An edit of line endings and spacing leaves every field
with its tokens, an evaluation reads nothing but tokens, and what is printed shows
nothing but values; so the two documents are evaluated alike and printed alike. -/
namespace PostfixSheet

namespace Sheet

variable {left right : Sheet} {delimiter : Char} {text other : String}

theorem cellText_eq_reading (marker : String) (cell : Cell) :
    cellText marker cell = (cell.reading.value.map (Value.display marker)).getD marker := by
  unfold cellText Cell.reading
  cases cell.value with
  | none => rfl
  | some value => rfl

theorem render_of_readings (same : left.readings = right.readings) (format : Format) :
    left.render format = right.render format := by
  have texts : ∀ sheet : Sheet, sheet.map (cellText format.marker) =
      sheet.readings.map fun reading =>
        (reading.value.map (Value.display format.marker)).getD format.marker := by
    intro sheet
    rw [readings, Table.map_map]
    exact congrArg sheet.map (funext (cellText_eq_reading format.marker))
  rw [render, render, texts, texts, same]

end Sheet

namespace Document
open Relation Delimited

/-- Line endings and spacing do not matter: whatever edits of them lead from one text to
another, the evaluated documents have the same shape, the same analyses and values, the
same order and the same text in every format. -/
theorem evaluate_respaced {name : String} {delimiter : Char}
    (read : Format.readDelimiter name = .ok delimiter) {text other : String}
    (edits : ReflTransGen (Respaced delimiter) text.toList other.toList) :
    let first := (ofText delimiter text).evaluate.1
    let second := (ofText delimiter other).evaluate.1
    first.sheet.widths = second.sheet.widths ∧
      (∀ address, (first.sheet.get? address).map Cell.analysis =
        (second.sheet.get? address).map Cell.analysis) ∧
      (∀ address, (first.sheet.get? address).map Cell.value =
        (second.sheet.get? address).map Cell.value) ∧
      first.order = second.order ∧
      ∀ format, first.render format = second.render format := by
  have visible := (Format.readDelimiter_eq_ok_iff.mp read).2
  have tokens := map_ofExpression_parse_congr visible edits
  have given : (Sheet.ofText delimiter text).readings = (Sheet.ofText delimiter other).readings := by
    rw [Sheet.ofText, Sheet.ofText, Sheet.readings_ofRows, Sheet.readings_ofRows, tokens]
  obtain ⟨computed, orders⟩ := Sheet.recalculate_of_readings given
  intro first second
  have same : first.sheet.readings = second.sheet.readings := by
    rw [sheet_evaluate, sheet_evaluate]
    exact computed
  have there : ∀ address, (first.sheet.get? address).map Cell.reading =
      (second.sheet.get? address).map Cell.reading := by
    intro address
    rw [← Table.get?_map, ← Table.get?_map]
    exact congrArg (Table.get? · address) same
  refine ⟨Sheet.widths_of_readings same, fun address => ?_, fun address => ?_, ?_, ?_⟩
  · have analyses := congrArg (Option.map Reading.analysis) (there address)
    rwa [Option.map_map, Option.map_map] at analyses
  · have values := congrArg (Option.map Reading.value) (there address)
    rwa [Option.map_map, Option.map_map] at values
  · simp only [first, second, fst_evaluate]
    exact orders
  · exact Sheet.render_of_readings same

/-- A carriage return in a line ending, a line feed at the end of the text, another gap
between two words, and gaps at the start of an empty field and in front of a line ending. -/
theorem evaluate_respaced_text :
    let first := (ofText ';' "1 2 +;A1\n;B2").evaluate.1
    let second := (ofText ';' "1 2\t\r+;A1 \r\n\u3000;B2\n").evaluate.1
    first.order = second.order ∧ first.render {} = second.render {} := by
  have read : Format.readDelimiter ";" = .ok ';' := by decide
  have space : IsGap [' '] := .singleton (by decide) (by decide)
  have tab : IsGap ['\t'] := .singleton (by decide) (by decide)
  have wide : IsGap ['\u3000'] := .singleton (by decide) (by decide)
  have returned : Respaced ';' "1 2 +;A1\n;B2".toList "1 2 +;A1\r\n;B2".toList :=
    .feed "1 2 +;A1".toList ";B2".toList
  have ended : Respaced ';' "1 2 +;A1\r\n;B2".toList "1 2 +;A1\r\n;B2\n".toList :=
    .final (by decide) (by decide)
  have wider : Respaced ';' "1 2 +;A1\r\n;B2\n".toList "1 2\t\r+;A1\r\n;B2\n".toList :=
    .gap "1 2".toList "+;A1\r\n;B2\n".toList space (tab.append .of_return)
  have started : Respaced ';' "1 2\t\r+;A1\r\n;B2\n".toList
      "1 2\t\r+;A1\r\n\u3000;B2\n".toList :=
    .start "1 2\t\r+;A1\r\n".toList ";B2\n".toList
      (.line "1 2\t\r+;A1\r".toList (by decide)) wide
  have stopped : Respaced ';' "1 2\t\r+;A1\r\n\u3000;B2\n".toList
      "1 2\t\r+;A1 \r\n\u3000;B2\n".toList :=
    .stop "1 2\t\r+;A1".toList "\r\n\u3000;B2\n".toList (.ending _ "\u3000;B2\n".toList) space
  have edits := ((((ReflTransGen.single returned).tail ended).tail wider).tail started).tail stopped
  obtain ⟨_, _, _, orders, texts⟩ := evaluate_respaced read edits
  exact ⟨orders, texts {}⟩

end Document

end PostfixSheet
