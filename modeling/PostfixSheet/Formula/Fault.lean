import PostfixSheet.Address.Notation

/-! Why a cell has no number. Some faults are found by reading the references
of a sheet, the others only by computing. -/
namespace PostfixSheet

inductive Fault where
  | invalidToken (text : String)
  | selfReference
  /-- The text of a reference that names no cell, as it was written. -/
  | outOfBounds (text : String)
  | cycle (through : Address)
  | stackUnderflow
  | malformed (remaining : Nat)
  /-- The cell whose own fault is passed on. -/
  | propagated (source : Address)
  | divisionByZero
  | nonFinite
deriving DecidableEq, Repr

namespace Fault

def message : Fault → String
  | .invalidToken text => "invalid token '" ++ text ++ "'"
  | .selfReference => "cell references itself"
  | .outOfBounds text => "reference '" ++ text ++ "' is outside the grid"
  | .cycle through => "circular reference through " ++ through.text
  | .stackUnderflow => "operator needs two operands"
  | .malformed remaining =>
      "expression leaves " ++ toString remaining ++ " values on the stack"
  | .propagated source => "depends on erroneous cell " ++ source.text
  | .divisionByZero => "division by zero"
  | .nonFinite => "result is not a finite number"

instance : ToString Fault := ⟨message⟩

end Fault

end PostfixSheet
