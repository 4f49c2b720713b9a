import PostfixSheet.Number.Arithmetic
import PostfixSheet.Formula.Token
import PostfixSheet.Formula.Value
import PostfixSheet.Formula.Fault

/-! Computing a postfix expression with a stack of numbers. Tokens act from left
to right and the first fault ends the run. A literal or a result must be finite;
a number that a reference brings in is taken as it is. At the end exactly one
number must be left. -/
namespace PostfixSheet

namespace Formula

def requireFinite (number : Binary64) : Except Fault Binary64 :=
  if number.isFinite then .ok number else .error .nonFinite

def operate (kind : Operator) (left right : Binary64) : Except Fault Binary64 :=
  match kind with
  | .add => requireFinite (left + right)
  | .subtract => requireFinite (left - right)
  | .multiply => requireFinite (left * right)
  | .divide => if right.isZero then .error .divisionByZero else requireFinite (left / right)

/-- What a reference stands for, given the values of the cells. -/
def resolve (lookup : Address → Option Value) (text : String) : Except Fault Binary64 :=
  match Address.ofText? text with
  | none => .error (.outOfBounds text)
  | some address =>
    match lookup address with
    | none => .error (.outOfBounds text)
    | some .error => .error (.propagated address)
    | some (.number number) => .ok number

/-- The effect of one token on the stack, whose top is the head of the list. -/
def step (lookup : Address → Option Value) (stack : List Binary64) :
    Token → Except Fault (List Binary64)
  | .number number => do return (← requireFinite number) :: stack
  | .reference text => do return (← resolve lookup text) :: stack
  | .invalid text => .error (.invalidToken text)
  | .operator kind =>
    match stack with
    | right :: left :: below => do return (← operate kind left right) :: below
    | _ => .error .stackUnderflow

def evaluateTokens (lookup : Address → Option Value) (tokens : List Token) :
    Except Fault Binary64 := do
  match ← tokens.foldlM (step lookup) [] with
  | [result] => return result
  | stack => .error (.malformed stack.length)

def evaluate (lookup : Address → Option Value) (expression : String) : Except Fault Binary64 :=
  evaluateTokens lookup (Token.ofExpression expression)

end Formula

end PostfixSheet
