import PostfixSheet.Number.Rounding

/-! The shortest decimal that reads back as a given magnitude. A decimal with
few digits is a point of a coarse grid of powers of ten, so the search goes from
the coarsest grid to finer ones and stops at the first grid that has a point
which rounds to the magnitude. Only the two grid points on either side of the
magnitude can be nearest to it. The nearer one is taken, the upper one if both
are equally near. -/
namespace PostfixSheet

structure Decimal where
  digits : Nat
  exponent : Int
deriving DecidableEq, Repr

namespace Decimal
open Binary64

attribute [local instance (high)] instPowNat

def readsAs (decimal : Decimal) (code : Nat) : Bool :=
  decimalCode decimal.digits decimal.exponent == code

/-- The two points beside a magnitude on the grid `10 ^ exponent`, nearer first. -/
def neighbours (code : Nat) (exponent : Int) : List Decimal :=
  let scaled := units code * 10 ^ (-exponent).toNat
  let grid := oneUnits * 10 ^ exponent.toNat
  let lower := scaled / grid
  if 2 * scaled < (2 * lower + 1) * grid then [⟨lower, exponent⟩, ⟨lower + 1, exponent⟩]
  else [⟨lower + 1, exponent⟩, ⟨lower, exponent⟩]

def hit? (code : Nat) (exponent : Int) : Option Decimal :=
  (neighbours code exponent).find? (readsAs · code)

/-- Tries the grids `10 ^ exponent`, `10 ^ (exponent - 1)`, ... as many times as
`finer` says, and then takes the last resort. -/
def search (hit? : Int → Option Decimal) (last : Decimal) (exponent : Int) : Nat → Decimal
  | 0 => last
  | finer + 1 =>
      match hit? exponent with
      | some decimal => decimal
      | none => search hit? last (exponent - 1) finer

/-- A magnitude itself, since 2^-1074 is `5 ^ 1074 * 10 ^ -1074`. -/
def ofMagnitude (code : Nat) : Decimal := ⟨units code * 5 ^ (1074 : Nat), -1074⟩

/-- No coarser grid than the power of ten just above the magnitude can hit. -/
def shortest (code : Nat) : Decimal :=
  let top := (Nat.toDigits 10 (units code / oneUnits)).length
  search (hit? code) (ofMagnitude code) top (top + 1074)

end Decimal

end PostfixSheet
