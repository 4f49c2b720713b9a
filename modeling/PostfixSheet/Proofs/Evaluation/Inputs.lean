import PostfixSheet.Proofs.Evaluation.Causes
import PostfixSheet.Proofs.Evaluation.Pass
import PostfixSheet.Proofs.Evaluation.Schedule

/-! What an unflagged cell reads while a sheet is recalculated. Analysis and
evaluation read the same references out of an expression, and the cells that they
name are evaluated before. So every look-up finds a value, and this value was
written in the same pass, whatever the sheet held before. What is left for the
cell to fail on is its own calculation, or an error that it reads; that error was
found in the pass, since a cell that reads a flagged cell is flagged itself. -/
namespace PostfixSheet.Sheet

variable {sheet : Sheet} {address target : Address} {before after : List Address} {cell : Cell}
  {verdict : Analysis} {text : String}

/-- The sheet in the midst of a recalculation, when these cells have been evaluated. -/
def midway (sheet : Sheet) (before : List Address) : Sheet := (sheet.analyze.1.evaluate before).1

/-- The pass over these cells came to an unflagged cell that it could not compute. -/
def FailedIn (sheet : Sheet) (order : List Address) (address : Address) : Prop :=
  ∃ before after cell fault, order = before ++ address :: after ∧
    (sheet.evaluate before).1.get? address = some cell ∧ cell.isFlagged = false ∧
    Formula.evaluate (sheet.evaluate before).1.valueAt? cell.expression = .error fault

theorem verdict_of_midway (found : (sheet.midway before).get? address = some cell) :
    ∃ verdict, sheet.verdict? address = some verdict ∧ cell.analysis = some verdict ∧
      sheet.tokensAt address = Token.ofExpression cell.expression := by
  obtain ⟨value, analyzed⟩ := get?_of_bare (bare_evaluate sheet.analyze.1 before).symm found
  obtain ⟨verdict, known, holds⟩ := exists_verdict_of_analyze analyzed
  refine ⟨verdict, known, holds, ?_⟩
  rw [get?_analyze] at analyzed
  obtain ⟨source, inSheet, same⟩ := Option.map_eq_some_iff.mp analyzed
  rw [tokensAt_of_get? inSheet, (Cell.mk.inj same).1]

theorem readable_of_unflagged (known : sheet.verdict? address = some verdict)
    (unflagged : verdict.isFlagged = false) {token : Token}
    (member : token ∈ sheet.tokensAt address) : ¬sheet.Unreadable token := by
  intro unreadable
  have flagged := isFlagged_of_isBroken known (.inl ⟨token, member, unreadable⟩)
  simp [unflagged] at flagged

theorem exists_input_of_unflagged (reached : sheet.recalculate.2 = before ++ address :: after)
    (known : sheet.verdict? address = some verdict) (unflagged : verdict.isFlagged = false)
    (member : .reference text ∈ sheet.tokensAt address) :
    ∃ target done, Address.ofText? text = some target ∧ target ∈ before ∧
      sheet.verdict? target = some done ∧ done.isFlagged = false := by
  have readable := readable_of_unflagged known unflagged member
  simp only [Unreadable, locate?_eq_none_iff] at readable
  obtain ⟨target, named⟩ := Option.ne_none_iff_exists'.mp readable
  have refers : sheet.Refers address target := refers_iff.mpr ⟨_, member, named⟩
  obtain ⟨_, done, isKnown, clean⟩ := unflagged_of_refers known unflagged refers
  refine ⟨target, done, (targetOf?_reference_eq_some_iff.mp named).1, ?_, isKnown, clean⟩
  obtain ⟨source, _, analyzed⟩ := exists_analyzed_of_verdict known
  refine (admissible_schedule sheet).inputs before address after reached _ analyzed ?_ target ?_
  · rwa [Cell.isFlagged_of_analysis rfl]
  · exact refers.of_expressions fun other => (expression_analyze sheet other).symm

theorem exists_value_of_unflagged (reached : sheet.recalculate.2 = before ++ address :: after)
    (known : sheet.verdict? address = some verdict) (unflagged : verdict.isFlagged = false)
    (member : .reference text ∈ sheet.tokensAt address) :
    ∃ target value done, Address.ofText? text = some target ∧
      (sheet.midway before).valueAt? target = some value ∧
      sheet.analyze.1.LastWrote before target value ∧
      sheet.verdict? target = some done ∧ done.isFlagged = false := by
  obtain ⟨target, done, decoded, listed, isKnown, isClean⟩ :=
    exists_input_of_unflagged reached known unflagged member
  obtain ⟨source, _, analyzed⟩ := exists_analyzed_of_verdict isKnown
  have inside : (sheet.analyze.1.get? target).isSome := by rw [analyzed, Option.isSome_some]
  obtain ⟨value, wrote, held⟩ := exists_lastWrote listed inside
  exact ⟨target, value, done, decoded, held, wrote, isKnown, isClean⟩

theorem FailedIn.of_lastWrote (wrote : sheet.analyze.1.LastWrote before target .error)
    (known : sheet.verdict? target = some verdict) (unflagged : verdict.isFlagged = false) :
    sheet.analyze.1.FailedIn before target := by
  obtain ⟨first, second, cell, split, _, found, computed⟩ := wrote
  have there : (sheet.midway first).get? target = some cell := found
  obtain ⟨same, isSame, holds, _⟩ := verdict_of_midway there
  obtain rfl : verdict = same := Option.some.inj (known.symm.trans isSame)
  have clean : cell.isFlagged = false := by rwa [Cell.isFlagged_of_analysis holds]
  simp only [compute, clean] at computed
  split at computed
  · contradiction
  · split at computed
    · contradiction
    · rename_i fault failed
      exact ⟨first, second, cell, fault, split, found, clean, failed⟩

/-- The tokens of an unflagged cell fail in their calculation, or they read an error
of another cell that failed in the same pass. -/
theorem cause_of_midway (reached : sheet.recalculate.2 = before ++ address :: after)
    (known : sheet.verdict? address = some verdict) (unflagged : verdict.isFlagged = false)
    {fault : Fault} (failed : Formula.evaluateTokens (sheet.midway before).valueAt?
      (sheet.tokensAt address) = .error fault) :
    fault.OfCalculation ∨
      ∃ source, fault = .propagated source ∧ sheet.analyze.1.FailedIn before source := by
  rcases Formula.cause_of_evaluateTokens failed with
    calculation | ⟨token, member, ⟨text, rfl, _⟩ | ⟨text, rfl, resolved⟩⟩
  · exact .inl calculation
  · have readable := readable_of_unflagged known unflagged member
    exact absurd trivial readable
  · right
    obtain ⟨target, value, done, decoded, held, wrote, isKnown, isClean⟩ :=
      exists_value_of_unflagged reached known unflagged member
    obtain ⟨rfl, rfl⟩ := Formula.resolve_of_value decoded held resolved
    exact ⟨target, rfl, .of_lastWrote wrote isKnown isClean⟩

/-- When a recalculation comes to an unflagged cell, every reference of the cell
finds a value that was written in this pass. The cell fails on nothing but its
calculation or the failure of another cell in this pass. -/
theorem recalculate_reads (sheet : Sheet) {before after : List Address} {address : Address}
    {cell : Cell} (reached : sheet.recalculate.2 = before ++ address :: after)
    (found : (sheet.midway before).get? address = some cell) (unflagged : cell.isFlagged = false) :
    (∀ text, .reference text ∈ Token.ofExpression cell.expression →
      ∃ target value, Address.ofText? text = some target ∧
        (sheet.midway before).valueAt? target = some value ∧
        sheet.analyze.1.LastWrote before target value) ∧
    ∀ fault, Formula.evaluate (sheet.midway before).valueAt? cell.expression = .error fault →
      fault.OfCalculation ∨
        ∃ source, fault = .propagated source ∧ sheet.analyze.1.FailedIn before source := by
  obtain ⟨verdict, known, holds, tokens⟩ := verdict_of_midway found
  rw [Cell.isFlagged_of_analysis holds] at unflagged
  rw [← tokens]
  constructor
  · intro text member
    obtain ⟨target, value, _, decoded, held, wrote, _⟩ :=
      exists_value_of_unflagged reached known unflagged member
    exact ⟨target, value, decoded, held, wrote⟩
  · intro fault failed
    exact cause_of_midway reached known unflagged (tokens ▸ failed)

/-- A cell divides by zero and another cell reads its error, on a sheet that holds
values from before. -/
theorem recalculate_reads_past_stale_values :
    let sheet := ((ofRows [["B1 1 +", "C1 0 /", "5"]]).setValue ⟨1, 0⟩ none).setValue ⟨2, 0⟩
      (some .error)
    let before := [⟨2, 0⟩, ⟨1, 0⟩]
    ∃ cell, sheet.recalculate.2 = before ++ [⟨0, 0⟩] ∧
      (sheet.midway before).get? ⟨0, 0⟩ = some cell ∧ cell.isFlagged = false ∧
      (∀ text, .reference text ∈ Token.ofExpression cell.expression →
        ∃ target value, Address.ofText? text = some target ∧
          (sheet.midway before).valueAt? target = some value ∧
          sheet.analyze.1.LastWrote before target value) ∧
      ∀ fault, Formula.evaluate (sheet.midway before).valueAt? cell.expression = .error fault →
        fault.OfCalculation ∨
          ∃ source, fault = .propagated source ∧ sheet.analyze.1.FailedIn before source := by
  intro sheet before
  have completed : sheet.analyze.2 = before ++ [⟨0, 0⟩] := by decide +kernel
  have sorted : sheet.analyze.2.Pairwise fun left right =>
      decide (sheet.analyze.1.dependencyCountAt left ≤ sheet.analyze.1.dependencyCountAt right) =
        true := by
    decide +kernel
  have reached : sheet.recalculate.2 = before ++ [⟨0, 0⟩] :=
    (List.mergeSort_of_pairwise sorted).trans completed
  have unflagged : ((sheet.midway before).get? ⟨0, 0⟩).map Cell.isFlagged = some false := by
    decide +kernel
  obtain ⟨cell, found, clean⟩ := Option.map_eq_some_iff.mp unflagged
  have reads := recalculate_reads sheet reached found clean
  exact ⟨cell, reached, found, clean, reads⟩

end PostfixSheet.Sheet
