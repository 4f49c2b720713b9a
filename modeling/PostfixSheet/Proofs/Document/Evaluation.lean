import PostfixSheet.Document
import PostfixSheet.Proofs.Evaluation.History
import PostfixSheet.Proofs.Evaluation.Pass

/-! Evaluating a document. An evaluation is a recalculation of the sheet, and since
a recalculation reads nothing but expressions, a second evaluation changes nothing.
A document counts as evaluated if it has a cell and every cell has a value: this is
so after every evaluation of a sheet with cells, and never before the first one. The
summary counts the listed cells and the errors as they come up; since every cell is
listed once, these are the cells of the sheet and those that hold an error in the end. -/
namespace PostfixSheet
open scoped List

namespace Table

variable {α : Type} {table : Table α}

theorem size_ne_zero_iff : table.size ≠ 0 ↔ ∃ address, (table.get? address).isSome := by
  rw [size_eq_length, Nat.ne_zero_iff_zero_lt, List.length_pos_iff_exists_mem]
  simp only [mem_toList, Option.isSome_iff_exists]
  exact exists_comm

end Table

namespace Document

variable {document : Document}

theorem fst_evaluate (document : Document) :
    document.evaluate.1 = { document with
      sheet := document.sheet.recalculate.1
      order := document.sheet.recalculate.2 } := by
  rw [← Sheet.recalculate_reset]
  rfl

theorem sheet_evaluate (document : Document) :
    document.evaluate.1.sheet = document.sheet.recalculate.1 := by
  rw [fst_evaluate]

theorem evaluate_evaluate (document : Document) :
    document.evaluate.1.evaluate.1 = document.evaluate.1 := by
  have again := Sheet.recalculate_congr (Sheet.expressions_recalculate document.sheet)
  simp only [fst_evaluate, again]

theorem isEvaluated_iff :
    document.isEvaluated = true ↔ (∃ address, (document.sheet.get? address).isSome) ∧
      ∀ address cell, document.sheet.get? address = some cell → cell.value.isSome := by
  simp only [isEvaluated, Bool.and_eq_true, bne_iff_ne, Table.size_ne_zero_iff, List.all_eq_true,
    Table.mem_toList]
  refine and_congr_right fun _ => ⟨fun values address cell found => ?_, fun values cell => ?_⟩
  · exact values cell ⟨address, found⟩
  · rintro ⟨address, found⟩
    exact values address cell found

theorem isEvaluated_evaluate_iff :
    document.evaluate.1.isEvaluated = true ↔
      ∃ address, (document.sheet.get? address).isSome := by
  rw [isEvaluated_iff, fst_evaluate]
  simp only [Sheet.isSome_get?_recalculate]
  refine and_iff_left fun address cell found => ?_
  have inside := Sheet.isSome_get?_recalculate document.sheet address
  rw [found, Option.isSome_some, eq_comm, Option.isSome_iff_exists] at inside
  obtain ⟨source, inSheet⟩ := inside
  obtain ⟨verdict, _, recalculated⟩ := Sheet.get?_recalculate inSheet
  rw [recalculated, Option.some.injEq] at found
  rw [← found, Option.isSome_some]

theorem isEvaluated_of_reset (fresh : document.sheet.reset = document.sheet) :
    document.isEvaluated = false := by
  rw [← Bool.not_eq_true, isEvaluated_iff]
  rintro ⟨⟨address, inside⟩, values⟩
  obtain ⟨cell, found⟩ := Option.isSome_iff_exists.mp inside
  have valued := values address cell found
  rw [← fresh, Sheet.reset, Table.get?_map, Option.map_eq_some_iff] at found
  obtain ⟨source, _, rfl⟩ := found
  contradiction

/-- The pass of an evaluation comes to every cell once. -/
theorem perm_order_evaluate (document : Document) :
    document.evaluate.1.order ~ document.sheet.reset.analyze.1.addresses :=
  (Sheet.IsDependencyOrder.of_schedule (Sheet.perm_completion document.sheet.reset)).perm

theorem addresses_evaluate (document : Document) :
    document.evaluate.1.sheet.addresses = document.sheet.reset.analyze.1.addresses :=
  Sheet.addresses_of_bare (Sheet.bare_evaluate ..)

theorem mem_order_evaluate_iff {address : Address} :
    address ∈ document.evaluate.1.order ↔ (document.evaluate.1.sheet.get? address).isSome := by
  rw [document.perm_order_evaluate.mem_iff, ← addresses_evaluate, Table.mem_addresses]

/-- The summary has the counts of the sheet, although it is taken from the order and from
what comes up in the pass. -/
theorem snd_evaluate (document : Document) :
    document.evaluate.2 =
      ⟨document.evaluate.1.sheet.size, document.evaluate.1.sheet.errorCount⟩ := by
  have perm := document.perm_order_evaluate
  have cells : document.evaluate.1.order.length = document.evaluate.1.sheet.size := by
    rw [← Table.length_addresses, addresses_evaluate]
    exact perm.length_eq
  have errors : (document.sheet.reset.analyze.1.evaluate document.evaluate.1.order).2 =
      document.evaluate.1.sheet.errorCount :=
    Sheet.snd_evaluate_of_perm perm
  rw [← cells, ← errors]
  rfl

/-- An evaluated cell has an analysis and a value, which is an error if it is flagged. -/
theorem exists_value_evaluate {address : Address} {cell : Cell}
    (found : document.evaluate.1.sheet.get? address = some cell) :
    ∃ verdict value, cell.analysis = some verdict ∧ cell.value = some value ∧
      (verdict.isFlagged → value = .error) := by
  rw [fst_evaluate] at found
  obtain ⟨source, inSheet⟩ :=
    Option.isSome_iff_exists.mp (Sheet.inside_of_recalculate found)
  obtain ⟨verdict, _, recalculated⟩ := Sheet.get?_recalculate inSheet
  obtain rfl := Option.some.inj (recalculated.symm.trans found)
  refine ⟨verdict, _, rfl, rfl, fun flagged => ?_⟩
  rw [Sheet.compute, Cell.isFlagged_of_analysis rfl, if_pos flagged]

/-- Evaluation keeps the shape of the sheet. The summary has the number of its cells and
of those that hold an error afterwards. Every cell then has an analysis and a value,
which is an error if the cell is flagged, and the order lists every cell once. -/
theorem evaluate_summary (document : Document) :
    let evaluated := document.evaluate.1
    evaluated.sheet.widths = document.sheet.widths ∧
      document.evaluate.2 = ⟨evaluated.sheet.size, evaluated.sheet.errorCount⟩ ∧
      (∀ address cell, evaluated.sheet.get? address = some cell →
        ∃ verdict value, cell.analysis = some verdict ∧ cell.value = some value ∧
          (verdict.isFlagged → value = .error)) ∧
      evaluated.order.Nodup ∧
      ∀ address, address ∈ evaluated.order ↔ (evaluated.sheet.get? address).isSome := by
  intro evaluated
  refine ⟨?_, document.snd_evaluate, fun _ _ => exists_value_evaluate, ?_,
    fun _ => mem_order_evaluate_iff⟩
  · rw [sheet_evaluate, Sheet.widths_recalculate]
  · exact document.perm_order_evaluate.nodup_iff.mpr (Table.nodup_addresses _)

/-- A division by zero, a reference to a missing cell and a cell that depends on it: three
errors in four cells, two of them flagged, over values from before. -/
theorem evaluate_summary_of_errors :
    let document : Document := { sheet := ⟨#[
      #[{ expression := "1 0 /" }, { expression := "7", value := some .error }],
      #[{ expression := "C3" }, { expression := "A2", value := some (.number (.zero false)) }]]⟩ }
    document.evaluate.2 = ⟨4, 3⟩ ∧
      document.evaluate.1.sheet.size = 4 ∧ document.evaluate.1.sheet.errorCount = 3 ∧
      ∃ cell, document.evaluate.1.sheet.get? ⟨1, 1⟩ = some cell ∧ cell.isFlagged ∧
        cell.value = some .error := by
  intro document
  let analyzed := document.sheet.reset.analyze
  have completion : analyzed.2 = [⟨0, 0⟩, ⟨1, 0⟩, ⟨0, 1⟩, ⟨1, 1⟩] := by decide +kernel
  have order : analyzed.1.schedule analyzed.2 = [⟨0, 0⟩, ⟨1, 0⟩, ⟨0, 1⟩, ⟨1, 1⟩] := by
    rw [completion]
    exact List.mergeSort_of_pairwise (by decide +kernel)
  have evaluated : document.evaluate.1.sheet =
      (analyzed.1.evaluate [⟨0, 0⟩, ⟨1, 0⟩, ⟨0, 1⟩, ⟨1, 1⟩]).1 :=
    congrArg (fun listed => (analyzed.1.evaluate listed).1) order
  have size : document.evaluate.1.sheet.size = 4 := by
    rw [evaluated]
    decide +kernel
  have errors : document.evaluate.1.sheet.errorCount = 3 := by
    rw [evaluated]
    decide +kernel
  obtain ⟨cell, found, flagged⟩ :
      ∃ cell, document.evaluate.1.sheet.get? ⟨1, 1⟩ = some cell ∧ cell.isFlagged := by
    rw [evaluated]
    exact (Option.any_eq_true _ _).mp (by decide +kernel)
  obtain ⟨_, summary, cells, _⟩ := evaluate_summary document
  obtain ⟨verdict, value, analysis, held, error⟩ := cells ⟨1, 1⟩ cell found
  refine ⟨?_, size, errors, cell, found, flagged, ?_⟩
  · rw [summary, size, errors]
  · rw [held, error (Cell.isFlagged_of_analysis analysis ▸ flagged)]

end Document

end PostfixSheet
