import PostfixSheet.Sheet.Passes

/-! Sheets that are spelled in different ways. The passes take an expression apart into
tokens before they do anything with it, so sheets whose cells have the same tokens,
analyses and values cannot be told apart by a pass: it finds out and writes the same on
both, and comes to the cells in the same order. -/
namespace PostfixSheet

/-- What the passes find in a cell. -/
structure Reading where
  tokens : List Token
  analysis : Option Analysis
  value : Option Value

/-- The expression is read as tokens, whatever its spelling. -/
def Cell.reading (cell : Cell) : Reading where
  tokens := Token.ofExpression cell.expression
  analysis := cell.analysis
  value := cell.value

namespace Sheet

variable {left right : Sheet} {cell other : Cell}

def readings (sheet : Sheet) : Table Reading := sheet.map Cell.reading

/-- The rows of a sheet that was only read in, with their tokens. -/
theorem readings_ofRows (rows : List (List String)) :
    (ofRows rows).readings = ⟨((rows.map (List.map Token.ofExpression)).map fun fields =>
      (fields.map fun tokens => { tokens, analysis := none, value := none }).toArray).toArray⟩ := by
  simp only [readings, ofRows, Table.map, List.map_toArray, List.map_map, Function.comp_def]
  rfl

theorem readings_setValue (sheet : Sheet) (address : Address) (value : Option Value) :
    (sheet.setValue address value).readings =
      sheet.readings.modify address fun reading => { reading with value } :=
  Table.map_modify fun _ => rfl

theorem readings_analyze (sheet : Sheet) :
    sheet.analyze.1.readings = sheet.readings.mapAddress fun address reading =>
      { reading with analysis := (Traversal.ofSheet sheet).analysis? address } := by
  refine Table.ext_get? ?_ fun address => ?_
  · simp only [readings, analyze, Table.widths_map, Table.widths_mapAddress]
  · simp only [readings, analyze, Table.get?_map, Table.get?_mapAddress, Option.map_map]
    rfl

/-- The walk starts from the tokens. -/
theorem start_eq_readings (sheet : Sheet) :
    Traversal.start sheet =
      { progress := sheet.readings.map fun reading => .unvisited reading.tokens } := by
  simp only [Traversal.start, readings, Table.map_map]
  rfl

theorem valueAt?_eq_readings (sheet : Sheet) (address : Address) :
    sheet.valueAt? address = (sheet.readings.get? address).bind Reading.value := by
  simp only [readings, Table.get?_map, Option.bind_map]
  rfl

theorem dependencyCountAt_eq_readings (sheet : Sheet) (address : Address) :
    sheet.dependencyCountAt address = ((sheet.readings.get? address).bind fun reading =>
      reading.analysis.map (·.dependencies.size)).getD 0 := by
  simp only [dependencyCountAt, readings, Table.get?_map]
  cases sheet.get? address with
  | none => rfl
  | some cell => rfl

section readings

variable (same : left.readings = right.readings)
include same

theorem widths_of_readings : left.widths = right.widths := by
  have shapes := congrArg Table.widths same
  simpa only [readings, Table.widths_map] using shapes

theorem addresses_of_readings : left.addresses = right.addresses := by
  have addresses := congrArg Table.addresses same
  simpa only [readings, Table.addresses_map] using addresses

theorem valueAt?_of_readings : left.valueAt? = right.valueAt? := by
  funext address
  rw [valueAt?_eq_readings, valueAt?_eq_readings, same]

theorem ofSheet_of_readings : Traversal.ofSheet left = Traversal.ofSheet right := by
  rw [Traversal.ofSheet, Traversal.ofSheet, start_eq_readings, start_eq_readings, same,
    addresses_of_readings same]

theorem analyze_of_readings :
    left.analyze.1.readings = right.analyze.1.readings ∧ left.analyze.2 = right.analyze.2 := by
  have walks := ofSheet_of_readings same
  constructor
  · rw [readings_analyze, readings_analyze, walks, same]
  · simp only [analyze, walks]

theorem schedule_of_readings (order : List Address) :
    left.schedule order = right.schedule order := by
  simp only [schedule, dependencyCountAt_eq_readings, same]

theorem compute_of_readings (alike : cell.reading = other.reading) :
    left.compute cell = right.compute other := by
  obtain ⟨tokens, analyses, _⟩ := Reading.mk.inj alike
  have flags : cell.isFlagged = other.isFlagged := by rw [Cell.isFlagged, Cell.isFlagged, analyses]
  have outcomes : Formula.evaluate left.valueAt? cell.expression =
      Formula.evaluate right.valueAt? other.expression := by
    rw [Formula.evaluate, Formula.evaluate, tokens, valueAt?_of_readings same]
  rw [compute, compute, flags, outcomes]

end readings

/-- One step of a pass of evaluation. The count has no influence on the cells. -/
theorem readings_evaluateAt_congr {first second : Sheet × Nat}
    (same : first.1.readings = second.1.readings) (address : Address) :
    (evaluateAt first address).1.readings = (evaluateAt second address).1.readings := by
  have there := congrArg (Table.get? · address) same
  simp only [readings, Table.get?_map] at there
  unfold evaluateAt
  cases inFirst : first.1.get? address with
  | none =>
    rw [inFirst, Option.map_none, eq_comm, Option.map_eq_none_iff] at there
    simp only [inFirst, there, same]
  | some cell =>
    rw [inFirst, Option.map_some, eq_comm, Option.map_eq_some_iff] at there
    obtain ⟨other, inSecond, alike⟩ := there
    simp only [inFirst, inSecond, readings_setValue, same, compute_of_readings same alike.symm]

theorem readings_evaluate_congr (same : left.readings = right.readings) (order : List Address) :
    (left.evaluate order).1.readings = (right.evaluate order).1.readings := by
  suffices passes : ∀ first second : Sheet × Nat, first.1.readings = second.1.readings →
      (order.foldl evaluateAt first).1.readings = (order.foldl evaluateAt second).1.readings from
    passes _ _ same
  induction order with
  | nil => exact fun _ _ => id
  | cons address order ih =>
    exact fun first second same => ih _ _ (readings_evaluateAt_congr same address)

/-- Recalculation cannot tell how the tokens are spelled. -/
theorem recalculate_of_readings (same : left.readings = right.readings) :
    left.recalculate.1.readings = right.recalculate.1.readings ∧
      left.recalculate.2 = right.recalculate.2 := by
  obtain ⟨analyses, completion⟩ := analyze_of_readings same
  have orders : left.analyze.1.schedule left.analyze.2 =
      right.analyze.1.schedule right.analyze.2 := by
    rw [completion, schedule_of_readings analyses]
  simp only [recalculate, orders, and_true]
  exact readings_evaluate_congr analyses _

end Sheet

end PostfixSheet
