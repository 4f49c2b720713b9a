import PostfixSheet.Table
import PostfixSheet.Address.Set
import PostfixSheet.Formula.Evaluation

/-! Sheets: ragged tables of cells. A cell is known by its place. It holds its
expression, which never changes while a sheet is computed, and what was last
found out about it: an analysis of its references and a value. -/
namespace PostfixSheet

/-- The cells that an expression reaches, directly or through other cells, and
the first fault that was met on the way. -/
structure Analysis where
  dependencies : AddressSet := .empty
  fault : Option Fault := none
deriving DecidableEq

namespace Analysis

def isFlagged (analysis : Analysis) : Bool := analysis.fault.isSome

/-- Keeps a fault unless an earlier one is kept already. -/
def note (analysis : Analysis) (fault : Fault) : Analysis :=
  { analysis with fault := analysis.fault <|> some fault }

/-- Takes in a referenced cell with all that it reaches. -/
def absorb (analysis : Analysis) (child : Address) (done : Analysis) : Analysis :=
  let wider := { analysis with dependencies := insert child analysis.dependencies ∪ done.dependencies }
  if done.isFlagged then wider.note (.propagated child) else wider

@[simp] theorem isFlagged_note (analysis : Analysis) (fault : Fault) :
    (analysis.note fault).isFlagged = true := by
  cases h : analysis.fault <;> simp [isFlagged, note, h]

@[simp] theorem dependencies_note (analysis : Analysis) (fault : Fault) :
    (analysis.note fault).dependencies = analysis.dependencies := rfl

@[simp] theorem isFlagged_absorb (analysis : Analysis) (child : Address) (done : Analysis) :
    (analysis.absorb child done).isFlagged = (analysis.isFlagged || done.isFlagged) := by
  unfold absorb
  cases flagged : done.isFlagged
  · simp [isFlagged]
  · simp

@[simp] theorem mem_dependencies_absorb {address child : Address} {analysis done : Analysis} :
    address ∈ (analysis.absorb child done).dependencies ↔
      address = child ∨ address ∈ analysis.dependencies ∨ address ∈ done.dependencies := by
  unfold absorb
  split <;> simp [or_assoc]

end Analysis

structure Cell where
  expression : String
  analysis : Option Analysis := none
  value : Option Value := none
deriving DecidableEq

namespace Cell

/-- A cell that was not analyzed is not flagged. -/
def isFlagged (cell : Cell) : Bool := cell.analysis.any Analysis.isFlagged

def dependencyCount (cell : Cell) : Nat :=
  (cell.analysis.map (·.dependencies.size)).getD 0

theorem isFlagged_of_analysis {cell : Cell} {verdict : Analysis}
    (analyzed : cell.analysis = some verdict) : cell.isFlagged = verdict.isFlagged := by
  rw [isFlagged, analyzed, Option.any_some]

end Cell

abbrev Sheet := Table Cell

namespace Sheet

def ofRows (rows : List (List String)) : Sheet :=
  ⟨(rows.map fun fields => (fields.map fun field => { expression := field }).toArray).toArray⟩

def valueAt? (sheet : Sheet) (address : Address) : Option Value :=
  (sheet.get? address).bind (·.value)

def setValue (sheet : Sheet) (address : Address) (value : Option Value) : Sheet :=
  sheet.modify address fun cell => { cell with value }

def setExpression (sheet : Sheet) (address : Address) (expression : String) : Sheet :=
  sheet.modify address fun cell => { cell with expression }

/-- Forgets every analysis and every value. -/
def reset (sheet : Sheet) : Sheet := sheet.map fun cell => { expression := cell.expression }

end Sheet

end PostfixSheet
