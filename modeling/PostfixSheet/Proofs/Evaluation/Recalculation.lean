import PostfixSheet.Proofs.Evaluation.Schedule

/-! A recalculated sheet is consistent. Every cell, flagged or not, holds what its
expression gives when it is evaluated with the final values. For a flagged cell
this is a fault, since one of its tokens means nothing or leads to another
flagged cell, which holds an error. -/
namespace PostfixSheet

/-- The cell holds the outcome of its expression. A flagged cell never holds a number. -/
def Cell.Records (cell : Cell) : Except Fault Binary64 → Prop
  | .ok number => cell.value = some (.number number.roundToTenth) ∧ cell.isFlagged = false
  | .error _ => cell.value = some .error

namespace Sheet

variable {sheet : Sheet} {address : Address} {source : Cell} {verdict : Analysis}

theorem bare_recalculate (sheet : Sheet) : sheet.recalculate.1.bare = sheet.analyze.1.bare :=
  bare_evaluate ..

theorem widths_recalculate (sheet : Sheet) : sheet.recalculate.1.widths = sheet.widths :=
  (widths_of_bare (bare_recalculate sheet)).trans Table.widths_mapAddress

theorem settledOn_recalculate (sheet : Sheet) :
    sheet.recalculate.1.SettledOn sheet.recalculate.2 :=
  (admissible_schedule sheet).settledOn_evaluate

theorem isSome_get?_recalculate (sheet : Sheet) (address : Address) :
    (sheet.recalculate.1.get? address).isSome = (sheet.get? address).isSome := by
  rw [isSome_get?_of_bare (bare_recalculate sheet), get?_analyze, Option.isSome_map]

theorem get?_recalculate_eq_none (outside : sheet.get? address = none) :
    sheet.recalculate.1.get? address = none := by
  rw [← Option.isNone_iff_eq_none, ← Option.isSome_eq_false_iff, isSome_get?_recalculate, outside,
    Option.isSome_none]

theorem inside_of_recalculate {cell : Cell}
    (found : sheet.recalculate.1.get? address = some cell) : (sheet.get? address).isSome := by
  rw [← isSome_get?_recalculate, found, Option.isSome_some]

/-- A recalculated cell has the verdict of the analysis and its settled value. -/
theorem get?_recalculate (inSheet : sheet.get? address = some source) :
    ∃ verdict, sheet.verdict? address = some verdict ∧
      sheet.recalculate.1.get? address = some { source with
        analysis := some verdict
        value := some (sheet.recalculate.1.compute { source with analysis := some verdict }) } := by
  obtain ⟨verdict, known, analyzed⟩ := exists_verdict inSheet
  obtain ⟨value, found⟩ := get?_of_bare (bare_recalculate sheet) analyzed
  have listed : address ∈ sheet.recalculate.2 := by
    refine (admissible_schedule sheet).covers address ?_
    rw [analyzed, Option.isSome_some]
  have settled : value =
      some (sheet.recalculate.1.compute { source with analysis := some verdict }) :=
    settledOn_recalculate sheet address listed _ found
  exact ⟨verdict, known, settled ▸ found⟩

theorem exists_valueAt?_recalculate (inside : (sheet.get? address).isSome) :
    ∃ value, sheet.recalculate.1.valueAt? address = some value := by
  obtain ⟨source, inSheet⟩ := Option.isSome_iff_exists.mp inside
  obtain ⟨verdict, _, found⟩ := get?_recalculate inSheet
  rw [valueAt?, found]
  exact ⟨_, rfl⟩

theorem valueAt?_recalculate_of_flagged (known : sheet.verdict? address = some verdict)
    (flagged : verdict.isFlagged) : sheet.recalculate.1.valueAt? address = some .error := by
  obtain ⟨source, inSheet⟩ := exists_cell_of_verdict known
  obtain ⟨same, isKnown, found⟩ := get?_recalculate inSheet
  obtain rfl : verdict = same := Option.some.inj (known.symm.trans isKnown)
  simp only [valueAt?, found, Option.bind_some, compute, Cell.isFlagged, Option.any_some, flagged,
    if_true]

theorem valueAt?_recalculate_of_unnamed {text : String} {looked : Address}
    (decoded : Address.ofText? text = some looked)
    (unnamed : sheet.targetOf? (.reference text) = none) :
    sheet.recalculate.1.valueAt? looked = none := by
  have outside : ¬(sheet.get? looked).isSome := fun inside => by
    have named := targetOf?_reference_eq_some_iff.mpr ⟨decoded, inside⟩
    rw [unnamed] at named
    contradiction
  rw [← isSome_get?_recalculate, Option.not_isSome_iff_eq_none] at outside
  rw [valueAt?, outside, Option.bind_none]

theorem fails_of_unreadable {token : Token} (unreadable : sheet.Unreadable token) :
    Formula.Fails sheet.recalculate.1.valueAt? token := by
  cases token with
  | number value => contradiction
  | operator kind => contradiction
  | invalid text => exact Formula.fails_invalid text
  | reference text =>
    refine Formula.fails_reference fun looked decoded => .inl ?_
    exact valueAt?_recalculate_of_unnamed decoded (locate?_eq_none_iff.mp unreadable)

/-- The final values make the expression of a flagged cell fail. -/
theorem evaluate_recalculate_of_flagged (inSheet : sheet.get? address = some source)
    (known : sheet.verdict? address = some verdict) (flagged : verdict.isFlagged) :
    ∃ fault, Formula.evaluate sheet.recalculate.1.valueAt? source.expression = .error fault := by
  obtain ⟨token, member, unreadable | ⟨target, done, named, isKnown, passedOn⟩⟩ :=
    exists_faulty_token known flagged
  all_goals rw [tokensAt_of_get? inSheet] at member
  · exact Formula.evaluateTokens_of_fails (fails_of_unreadable unreadable) member
  · refine Formula.evaluateTokens_of_fails ?_ member
    cases token with
    | reference text =>
      refine Formula.fails_reference fun looked decoded => .inr ?_
      obtain rfl : target = looked := Option.some.inj
        ((targetOf?_reference_eq_some_iff.mp named).1.symm.trans decoded)
      exact valueAt?_recalculate_of_flagged isKnown passedOn
    | _ => simp [targetOf?] at named

/-- Every cell holds what its expression gives with the final values. -/
theorem recalculate_consistent (sheet : Sheet) {address : Address} {source : Cell}
    (inSheet : sheet.get? address = some source) :
    ∃ cell, sheet.recalculate.1.get? address = some cell ∧
      cell.Records (Formula.evaluate sheet.recalculate.1.valueAt? source.expression) := by
  obtain ⟨verdict, known, found⟩ := get?_recalculate inSheet
  refine ⟨_, found, ?_⟩
  cases outcome : Formula.evaluate sheet.recalculate.1.valueAt? source.expression with
  | ok number =>
    have unflagged : verdict.isFlagged = false := by
      by_contra flagged
      obtain ⟨fault, failed⟩ :=
        evaluate_recalculate_of_flagged inSheet known (by simpa using flagged)
      rw [outcome] at failed
      contradiction
    simp [Cell.Records, compute, Cell.isFlagged, unflagged, outcome]
  | error fault => simp [Cell.Records, compute, outcome]

theorem valueAt?_recalculate_of_ok (inSheet : sheet.get? address = some source) {number : Binary64}
    (evaluated :
      Formula.evaluate sheet.recalculate.1.valueAt? source.expression = .ok number) :
    sheet.recalculate.1.valueAt? address = some (.number number.roundToTenth) := by
  obtain ⟨cell, found, records⟩ := recalculate_consistent sheet inSheet
  rw [evaluated] at records
  rw [valueAt?, found, Option.bind_some, records.1]

theorem valueAt?_recalculate_of_error (inSheet : sheet.get? address = some source) {fault : Fault}
    (failed : Formula.evaluate sheet.recalculate.1.valueAt? source.expression = .error fault) :
    sheet.recalculate.1.valueAt? address = some .error := by
  obtain ⟨cell, found, records⟩ := recalculate_consistent sheet inSheet
  rw [failed] at records
  rw [valueAt?, found, Option.bind_some, records]

/-- An unflagged cell, with a value that was rounded before it was read, and a flagged one. -/
theorem recalculate_consistent_beside_fault :
    let sheet := ofRows [["B1 C1 /", "C1 0.25 +", "0.5"], ["A1 oops"]]
    (∃ cell, sheet.recalculate.1.get? ⟨0, 0⟩ = some cell ∧
      cell.Records (Formula.evaluate sheet.recalculate.1.valueAt? "B1 C1 /")) ∧
    ∃ cell, sheet.recalculate.1.get? ⟨0, 1⟩ = some cell ∧
      cell.Records (Formula.evaluate sheet.recalculate.1.valueAt? "A1 oops") := by
  intro sheet
  have reader : sheet.get? ⟨0, 0⟩ = some { expression := "B1 C1 /" } := rfl
  have broken : sheet.get? ⟨0, 1⟩ = some { expression := "A1 oops" } := rfl
  have atReader := recalculate_consistent sheet reader
  have atBroken := recalculate_consistent sheet broken
  exact ⟨atReader, atBroken⟩

end Sheet

end PostfixSheet
