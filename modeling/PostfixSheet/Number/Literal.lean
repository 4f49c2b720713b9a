import PostfixSheet.Number.Rounding
import PostfixSheet.Text.Digits

/-! Decimal literals: an optional minus sign, a numeral, and optionally a point
and a second numeral. The value is the exact decimal rounded once, so a literal
past the finite range is infinite and one below it is a zero with its sign. -/
namespace PostfixSheet

structure Literal where
  negative : Bool
  /-- The number written by all digits, the point left out. -/
  digits : Nat
  /-- How many of the digits stand after the point. -/
  places : Nat
deriving DecidableEq, Repr

namespace Literal
open Text

/-- A literal without its sign. -/
def ofUnsigned? (negative : Bool) (text : List Char) : Option Literal :=
  match text.splitOn '.' with
  | [whole] => if isNumeral whole then some ⟨negative, numeralValue whole, 0⟩ else none
  | [whole, fraction] =>
      if isNumeral whole && isNumeral fraction then
        some ⟨negative, numeralValue (whole ++ fraction), fraction.length⟩
      else none
  | _ => none

def ofText? : List Char → Option Literal
  | '-' :: text => ofUnsigned? true text
  | text => ofUnsigned? false text

def value (literal : Literal) : Binary64 :=
  .ofDecimal literal.negative literal.digits (-literal.places)

end Literal

end PostfixSheet
