import PostfixSheet.Number.Tenths

/-! What a cell holds once it is computed: a number, or the mark that its
expression could not be computed. -/
namespace PostfixSheet

inductive Value where
  | number (value : Binary64)
  | error
deriving DecidableEq

namespace Value

def isError : Value → Bool
  | .error => true
  | .number _ => false

/-- The text of a value, with a text of the caller's choice for errors. -/
def display (marker : String) : Value → String
  | .number value => value.text
  | .error => marker

end Value

def defaultMarker : String := "#ERR"

end PostfixSheet
