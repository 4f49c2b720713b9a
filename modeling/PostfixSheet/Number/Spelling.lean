import PostfixSheet.Text.Digits

/-! Spellings that readers of numbers accept, which is more than a sheet accepts:
an optional sign, then digits with at most one point, at least one digit and an
optional exponent, or a name of an infinite value or of no value, in any case. -/
namespace PostfixSheet
open Text

namespace Spelling

def dropSign : List Char → List Char
  | '+' :: text => text
  | '-' :: text => text
  | text => text

/-- Digits with at most one point, which may stand at either end. -/
def isMantissa (text : List Char) : Bool :=
  match text.splitOn '.' with
  | [whole] => isNumeral whole
  | [whole, fraction] => isNumeral (whole ++ fraction)
  | _ => false

/-- Nothing, or the letter `e` and a numeral that may have a sign. -/
def isExponent : List Char → Bool
  | [] => true
  | _ :: power => isNumeral (dropSign power)

def isExponentMark (char : Char) : Bool := char == 'e' || char == 'E'

def names : List (List Char) :=
  [['i', 'n', 'f'], ['i', 'n', 'f', 'i', 'n', 'i', 't', 'y'], ['n', 'a', 'n']]

def isNumber (text : List Char) : Bool :=
  let unsigned := dropSign text
  let (mantissa, exponent) := unsigned.span fun char => !isExponentMark char
  names.contains (unsigned.map Char.toLower) || isMantissa mantissa && isExponent exponent

end Spelling

end PostfixSheet
