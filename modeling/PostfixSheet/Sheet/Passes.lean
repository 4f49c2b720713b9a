import PostfixSheet.Sheet.Traversal

/-! The passes that compute a sheet. Analysis finds for every cell what it
depends on; scheduling puts cells with fewer dependencies first, which puts every
cell behind the cells that it depends on; evaluation computes the listed cells
one after the other from the values present at that moment. Recalculation is the
three together. -/
namespace PostfixSheet.Sheet

/-- Analyzes every cell. The cells are listed in the order of completion. -/
def analyze (sheet : Sheet) : Sheet × List Address :=
  let traversal := Traversal.ofSheet sheet
  (sheet.mapAddress fun address cell => { cell with analysis := traversal.analysis? address },
    traversal.order.toList)

def dependencyCountAt (sheet : Sheet) (address : Address) : Nat :=
  ((sheet.get? address).map Cell.dependencyCount).getD 0

/-- Sorts by the number of dependencies and keeps the order of equals. -/
def schedule (sheet : Sheet) (order : List Address) : List Address :=
  order.mergeSort fun left right => sheet.dependencyCountAt left ≤ sheet.dependencyCountAt right

def compute (sheet : Sheet) (cell : Cell) : Value :=
  if cell.isFlagged then .error
  else match Formula.evaluate sheet.valueAt? cell.expression with
    | .ok number => .number number.roundToTenth
    | .error _ => .error

def evaluateAt (state : Sheet × Nat) (address : Address) : Sheet × Nat :=
  let (sheet, errors) := state
  match sheet.get? address with
  | none => (sheet, errors)
  | some cell =>
    let value := sheet.compute cell
    (sheet.setValue address (some value), if value.isError then errors + 1 else errors)

def evaluate (sheet : Sheet) (order : List Address) : Sheet × Nat :=
  order.foldl evaluateAt (sheet, 0)

/-- All three passes. The cells are listed in the order of evaluation. -/
def recalculate (sheet : Sheet) : Sheet × List Address :=
  let (analyzed, completion) := sheet.analyze
  let order := analyzed.schedule completion
  ((analyzed.evaluate order).1, order)

end PostfixSheet.Sheet
