import PostfixSheet.Number.Literal
import PostfixSheet.Address.Notation
import PostfixSheet.Text.Blank

/-! Tokens of a postfix expression. Every word of the expression is one token,
and its spelling alone says which: one of the four operators, a decimal literal,
the shape of a written address, or none of these. The three shapes share no
word. A reference keeps its spelling, since what it names depends on the sheet. -/
namespace PostfixSheet

inductive Operator where
  | add
  | subtract
  | multiply
  | divide
deriving DecidableEq, Repr

namespace Operator

def symbol : Operator → Char
  | .add => '+'
  | .subtract => '-'
  | .multiply => '*'
  | .divide => '/'

def ofChars? : List Char → Option Operator
  | ['+'] => some .add
  | ['-'] => some .subtract
  | ['*'] => some .multiply
  | ['/'] => some .divide
  | _ => none

def ofText? (text : String) : Option Operator := ofChars? text.toList

theorem ofChars?_eq_some_iff {chars : List Char} {operator : Operator} :
    ofChars? chars = some operator ↔ chars = [operator.symbol] := by
  constructor
  · intro read
    unfold ofChars? at read
    split at read <;> cases read <;> rfl
  · rintro rfl
    cases operator <;> rfl

end Operator

inductive Token where
  | number (value : Binary64)
  | operator (kind : Operator)
  | reference (text : String)
  | invalid (text : String)
deriving DecidableEq

namespace Token

def ofWord (word : List Char) : Token :=
  match Operator.ofChars? word with
  | some kind => .operator kind
  | none =>
    match Literal.ofText? word with
    | some literal => .number literal.value
    | none =>
      if Address.isWritten word then .reference (String.ofList word)
      else .invalid (String.ofList word)

/-- The tokens of an expression, left to right. -/
def ofExpression (expression : String) : List Token :=
  (Text.words expression.toList).map ofWord

end Token

end PostfixSheet
