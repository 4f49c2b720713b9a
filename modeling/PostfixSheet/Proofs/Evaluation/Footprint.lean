import PostfixSheet.Proofs.Evaluation.History
import PostfixSheet.Proofs.Evaluation.Pass

/-! What the passes and the writes leave alone. A pass of evaluation comes to each
position of its list in turn, computes a value there if the sheet has the cell, and
writes it to the cell. The list may leave cells out, repeat them or name none of the
sheet. A cell that is not listed stays as it was, a listed one keeps all but its value,
and its value is the one computed at its last position. No action changes the shape of
a sheet; an expression is changed by writing one, and an analysis by the analysis or by
forgetting it. -/
namespace PostfixSheet.Sheet

variable {sheet : Sheet} {address : Address} {before after order : List Address}
  {cell : Cell}

/-- What a pass computes at a position of its list, from the values that are there when
it comes to this position. It computes nothing where the sheet has no cell. -/
def computedAt? (sheet : Sheet) (order : List Address) (position : Nat) : Option Value := do
  let address ← order[position]?
  let now := (sheet.evaluate (order.take position)).1
  let cell ← now.get? address
  return now.compute cell

theorem widths_evaluate (sheet : Sheet) (order : List Address) :
    (sheet.evaluate order).1.widths = sheet.widths :=
  widths_of_bare (bare_evaluate sheet order)

theorem get?_evaluate_of_not_mem (absent : address ∉ order) :
    (sheet.evaluate order).1.get? address = sheet.get? address := by
  induction order using List.reverseRecOn with
  | nil => rfl
  | append_singleton order last ih =>
    simp only [List.mem_append, List.mem_singleton, not_or] at absent
    obtain ⟨notEarlier, notLast⟩ := absent
    rw [fst_evaluate_append, ← ih notEarlier]
    cases found : (sheet.evaluate order).1.get? last with
    | none => rw [fst_evaluate_singleton_of_outside found]
    | some other => rw [fst_evaluate_singleton found, get?_setValue_of_ne (Ne.symm notLast)]

/-- When a pass has come to some cells, a cell of the sheet still has its expression and
its analysis, so it is computed as from the start, though from other values. -/
theorem exists_current (found : sheet.get? address = some cell) (order : List Address) :
    ∃ current, (sheet.evaluate order).1.get? address = some current ∧
      (∀ value, { current with value } = { cell with value }) ∧
      ∀ now : Sheet, now.compute current = now.compute cell := by
  obtain ⟨value, current⟩ := get?_of_bare (bare_evaluate sheet order) found
  exact ⟨_, current, fun _ => rfl, fun _ => rfl⟩

theorem computedAt?_of_split (found : sheet.get? address = some cell) :
    sheet.computedAt? (before ++ address :: after) before.length =
      some ((sheet.evaluate before).1.compute cell) := by
  obtain ⟨current, isCurrent, _, computes⟩ := exists_current found before
  simp [computedAt?, isCurrent, computes]

/-- The last position of a cell decides on its value, and nothing else of it is written. -/
theorem get?_evaluate_of_last (found : sheet.get? address = some cell) (last : address ∉ after) :
    (sheet.evaluate (before ++ address :: after)).1.get? address =
      some { cell with value := some ((sheet.evaluate before).1.compute cell) } := by
  obtain ⟨current, isCurrent, sameElse, computes⟩ := exists_current found before
  have split : before ++ address :: after = (before ++ [address]) ++ after := by
    rw [List.append_assoc, List.singleton_append]
  rw [split, fst_evaluate_append, get?_evaluate_of_not_mem last, fst_evaluate_append,
    fst_evaluate_singleton isCurrent, setValue, Table.get?_modify, if_pos rfl, isCurrent,
    Option.map_some, sameElse, computes]

theorem computedAt?_append {position : Nat} (within : position < before.length) :
    sheet.computedAt? (before ++ after) position = sheet.computedAt? before position := by
  rw [computedAt?, computedAt?, List.getElem?_append_left within,
    List.take_append_of_le_length (Nat.le_of_lt within)]

/-- A pass counts the positions at which it computes an error, repeated cells again. -/
theorem snd_evaluate_eq_countP (sheet : Sheet) (order : List Address) :
    (sheet.evaluate order).2 =
      (List.range order.length).countP fun position =>
        sheet.computedAt? order position = some .error := by
  induction order using List.reverseRecOn with
  | nil => rfl
  | append_singleton order last ih =>
    have earlier : ((List.range order.length).countP fun position =>
        sheet.computedAt? (order ++ [last]) position = some .error) =
          (sheet.evaluate order).2 := by
      rw [ih]
      refine List.countP_congr fun position inRange => ?_
      rw [computedAt?_append (List.mem_range.mp inRange)]
    have here : sheet.computedAt? (order ++ [last]) order.length =
        ((sheet.evaluate order).1.get? last).map (sheet.evaluate order).1.compute := by
      simp only [computedAt?, List.getElem?_concat_length, List.take_left, Option.bind_eq_bind,
        Option.bind_some, Option.pure_def]
      cases (sheet.evaluate order).1.get? last <;> rfl
    rw [evaluate_concat, List.length_append, List.length_singleton, List.range_succ,
      List.countP_append, List.countP_singleton, earlier, here]
    cases found : (sheet.evaluate order).1.get? last with
    | none => simp [evaluateAt, found]
    | some current =>
      simp only [evaluateAt, found, Option.map_some, Option.some.injEq]
      cases (sheet.evaluate order).1.compute current <;> simp [Value.isError]

theorem widths_perform (sheet : Sheet) (action : Action) :
    (sheet.perform action).widths = sheet.widths := by
  cases action with
  | analyze => exact Table.widths_mapAddress
  | schedule order => rfl
  | evaluate order => exact widths_evaluate sheet order
  | reset => exact Table.widths_map
  | setValue target value => exact Table.widths_modify
  | setExpression target text => exact Table.widths_modify

theorem widths_replay (sheet : Sheet) (history : List Action) :
    (sheet.replay history).widths = sheet.widths := by
  induction history generalizing sheet with
  | nil => rfl
  | cons action history ih => exact (ih (sheet.perform action)).trans (widths_perform sheet action)

theorem expression_perform {action : Action}
    (unwritten : ∀ text, action ≠ .setExpression address text) :
    ((sheet.perform action).get? address).map Cell.expression =
      (sheet.get? address).map Cell.expression := by
  cases action with
  | analyze => exact (expression_analyze sheet address).symm
  | schedule order => rfl
  | evaluate order => exact map_get?_of_bare (bare_evaluate ..) (fun _ _ => rfl) address
  | reset => simp only [perform, reset, Table.get?_map, Option.map_map, Function.comp_def]
  | setValue target value => exact map_get?_of_bare (bare_setValue ..) (fun _ _ => rfl) address
  | setExpression target text =>
    have other : target ≠ address := fun same => unwritten text (same ▸ rfl)
    rw [perform, setExpression, Table.get?_modify, if_neg other]

theorem analysis_perform {action : Action} (notAnalyze : action ≠ .analyze)
    (notReset : action ≠ .reset) (address : Address) :
    ((sheet.perform action).get? address).map Cell.analysis =
      (sheet.get? address).map Cell.analysis := by
  cases action with
  | analyze => exact absurd rfl notAnalyze
  | schedule order => rfl
  | evaluate order => exact map_get?_of_bare (bare_evaluate ..) (fun _ _ => rfl) address
  | reset => exact absurd rfl notReset
  | setValue target value => exact map_get?_of_bare (bare_setValue ..) (fun _ _ => rfl) address
  | setExpression target text =>
    rw [perform, setExpression, Table.get?_modify]
    split
    · rw [Option.map_map]
      rfl
    · rfl

end PostfixSheet.Sheet
