import PostfixSheet.Proofs.Evaluation.Recalculation

/-! Recalculation forgets history. It reads nothing of a sheet but expressions:
the walk starts from them alone, and a settled sheet is fixed by them. Whatever
passes and writes came before, with whatever orders and values, recalculation
gives the sheet and the order that it gives for a fresh sheet of the expressions
that are there now. -/
namespace PostfixSheet.Sheet

variable {sheet left right : Sheet}

/-- What may be done to a sheet between two recalculations. -/
inductive Action where
  | analyze
  | schedule (order : List Address)
  | evaluate (order : List Address)
  | reset
  | setValue (address : Address) (value : Option Value)
  | setExpression (address : Address) (expression : String)

/-- The sheet after an action. To find an order changes no cell. -/
def perform (sheet : Sheet) : Action → Sheet
  | .analyze => sheet.analyze.1
  | .schedule _ => sheet
  | .evaluate order => (sheet.evaluate order).1
  | .reset => sheet.reset
  | .setValue address value => sheet.setValue address value
  | .setExpression address expression => sheet.setExpression address expression

def replay (sheet : Sheet) (history : List Action) : Sheet := history.foldl perform sheet

/-- The expressions of a sheet, row by row. -/
def expressions (sheet : Sheet) : List (List String) :=
  (sheet.map Cell.expression).rows.toList.map Array.toList

/-- What an action does to the expressions: only a written expression counts. -/
def Action.edit (rows : List (List String)) : Action → List (List String)
  | .setExpression address expression =>
      rows.modify address.row (·.modify address.column fun _ => expression)
  | _ => rows

theorem ofRows_expressions (sheet : Sheet) : ofRows sheet.expressions = sheet.reset := by
  obtain ⟨⟨rows⟩⟩ := sheet
  simp only [ofRows, expressions, reset, Table.map, List.map_toArray, List.map_map,
    Function.comp_def, Array.toList_map]
  congr 2
  exact List.map_congr_left fun cells _ => by simp [Array.ext_iff]

theorem expressions_ofRows (rows : List (List String)) : (ofRows rows).expressions = rows := by
  simp [ofRows, expressions, Table.map, Function.comp_def]

theorem expressions_congr (same : left.map Cell.expression = right.map Cell.expression) :
    left.expressions = right.expressions := by
  rw [expressions, expressions, same]

theorem expressions_of_bare (same : left.bare = right.bare) :
    left.expressions = right.expressions := by
  have written := congrArg (Table.map Cell.expression) same
  refine expressions_congr ?_
  simpa only [bare, Table.map_map, Function.comp_def] using written

theorem expressions_setExpression (sheet : Sheet) (address : Address) (expression : String) :
    (sheet.setExpression address expression).expressions =
      sheet.expressions.modify address.row (·.modify address.column fun _ => expression) := by
  have written : (sheet.setExpression address expression).map Cell.expression =
      (sheet.map Cell.expression).modify address fun _ => expression :=
    Table.map_modify fun _ => rfl
  rw [expressions, written, Table.toList_rows_modify, expressions]

theorem expressions_perform (sheet : Sheet) (action : Action) :
    (sheet.perform action).expressions = action.edit sheet.expressions := by
  cases action with
  | analyze =>
    refine expressions_congr (Table.ext_get? ?_ fun address => ?_)
    · simp only [perform, Table.widths_map]
      exact Table.widths_mapAddress
    · simpa only [perform, Table.get?_map] using (expression_analyze sheet address).symm
  | schedule order => rfl
  | evaluate order => exact expressions_of_bare (bare_evaluate ..)
  | reset => exact expressions_congr Table.map_map
  | setValue address value => exact expressions_of_bare (bare_setValue ..)
  | setExpression address expression => exact expressions_setExpression ..

theorem expressions_replay (sheet : Sheet) (history : List Action) :
    (sheet.replay history).expressions = history.foldl Action.edit sheet.expressions := by
  induction history generalizing sheet with
  | nil => rfl
  | cons action history ih =>
    rw [List.foldl_cons, ← expressions_perform]
    exact ih (sheet.perform action)

/-- The walk starts from the expressions alone. -/
theorem ofSheet_reset (sheet : Sheet) :
    Traversal.ofSheet sheet.reset = Traversal.ofSheet sheet := by
  have start : Traversal.start sheet.reset = Traversal.start sheet := by
    simp only [Traversal.start, reset, Table.map_map, Function.comp_def]
  have addresses : sheet.reset.addresses = sheet.addresses := Table.addresses_map
  rw [Traversal.ofSheet, Traversal.ofSheet, start, addresses]

theorem analyze_reset (sheet : Sheet) :
    sheet.reset.analyze = (sheet.analyze.1.bare, sheet.analyze.2) := by
  simp only [analyze, ofSheet_reset]
  refine Prod.ext (Table.ext_get? ?_ fun address => ?_) rfl
  · simp only [bare, reset, Table.widths_map, Table.widths_mapAddress]
  · simp only [bare, reset, Table.get?_map, Table.get?_mapAddress, Option.map_map,
      Function.comp_def]

theorem schedule_bare (sheet : Sheet) (order : List Address) :
    sheet.bare.schedule order = sheet.schedule order := by
  have counts : ∀ address, sheet.bare.dependencyCountAt address = sheet.dependencyCountAt address :=
    fun address => by
      simp only [dependencyCountAt, bare, Table.get?_map, Option.map_map]
      rfl
  simp only [schedule, counts]

/-- Recalculation reads nothing of a sheet but expressions. -/
theorem recalculate_reset (sheet : Sheet) : sheet.reset.recalculate = sheet.recalculate := by
  have orders : sheet.reset.recalculate.2 = sheet.recalculate.2 := by
    simp only [recalculate, analyze_reset, schedule_bare]
  have bares : sheet.recalculate.1.bare = sheet.reset.recalculate.1.bare := by
    rw [bare_recalculate, bare_recalculate, analyze_reset, bare_bare]
  refine Prod.ext (SettledOn.unique bares ?_ (settledOn_recalculate sheet) ?_).symm orders
  · exact (admissible_schedule sheet).of_bare (bare_recalculate sheet).symm
  · exact orders ▸ settledOn_recalculate sheet.reset

theorem recalculate_congr (same : left.expressions = right.expressions) :
    left.recalculate = right.recalculate := by
  rw [← recalculate_reset left, ← recalculate_reset right, ← ofRows_expressions, same,
    ofRows_expressions]

theorem expressions_recalculate (sheet : Sheet) :
    sheet.recalculate.1.expressions = sheet.expressions :=
  (expressions_of_bare (bare_recalculate sheet)).trans (expressions_perform sheet .analyze)

theorem reset_ofRows (rows : List (List String)) : (ofRows rows).reset = ofRows rows := by
  rw [← ofRows_expressions, expressions_ofRows]

/-- Whatever was done to a sheet before, recalculation gives what it gives for a
fresh sheet of the expressions that are there now. -/
theorem recalculate_replay (rows : List (List String)) (history : List Action) :
    ((ofRows rows).replay history).expressions = history.foldl Action.edit rows ∧
      ((ofRows rows).replay history).recalculate =
        (ofRows ((ofRows rows).replay history).expressions).recalculate := by
  constructor
  · rw [expressions_replay, expressions_ofRows]
  · rw [ofRows_expressions, recalculate_reset]

end PostfixSheet.Sheet
