import PostfixSheet.Number.Shortest
import PostfixSheet.Text.Digits

/-! Numbers as a sheet keeps and prints them: rounded to one fractional digit.
The exact binary value decides, and an exact half goes to the even digit. From
2^52 on every number is whole and is left alone, as is every number that is not
finite. The text has the shortest digits of the rounded number, never an
exponent, and zero of either sign is a plain `0`. -/
namespace PostfixSheet

attribute [local instance (high)] instPowNat

namespace Decimal
open Text

/-- Positional notation, padded with zeros on either side of the point. -/
def positional (decimal : Decimal) : List Char :=
  if 0 ≤ decimal.exponent then
    numeral (decimal.digits * 10 ^ decimal.exponent.toNat)
  else
    let places := (-decimal.exponent).toNat
    let fraction := numeral (decimal.digits % 10 ^ places)
    numeral (decimal.digits / 10 ^ places) ++
      '.' :: (List.replicate (places - fraction.length) '0' ++ fraction)

end Decimal

namespace Binary64

/-- The number 2^52, in units of 2^-1074: from here on every number is whole. -/
def wholeFrom : Nat := 2 ^ (52 : Nat) * oneUnits

def tenths (magnitude : Nat) : Nat := roundDiv (magnitude * 10) oneUnits

/-- The number nearest to the decimal with one fractional digit. -/
def roundToTenth : Binary64 → Binary64
  | .finite negative code =>
      if wholeFrom ≤ units code then .finite negative code
      else .ofDecimal negative (tenths (units code)) (-1)
  | number => number

def plainText : Binary64 → List Char
  | .nan => ['N', 'a', 'N']
  | .infinite negative => (if negative then ['-'] else []) ++ ['i', 'n', 'f']
  | .finite negative code =>
      if code.val = 0 then ['0']
      else (if negative then ['-'] else []) ++ (Decimal.shortest code).positional

def text (number : Binary64) : String := String.ofList (plainText (roundToTenth number))

end Binary64

end PostfixSheet
