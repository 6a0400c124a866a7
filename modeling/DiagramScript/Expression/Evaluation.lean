import DiagramScript.Expression.Builtin
import DiagramScript.Expression.Lexeme
import DiagramScript.Expression.Parser
import DiagramScript.Expression.Power

/-! Values of trees and of the texts of expressions. Operands are evaluated from left to right, and
the first error is the answer. -/
namespace DiagramScript

def Sign.apply : Sign → Value → Value
  | .minus, value => -value
  | .plus, value => value

def Operator.apply (operator : Operator) (left right : Value) (position : Nat) :
    Except ExpressionError Value :=
  match operator with
  | .add => .ok (left + right)
  | .sub => .ok (left - right)
  | .mul => .ok (left * right)
  | .div => if right.isZero then .error (.divisionByZero position) else .ok (left / right)
  | .pow => evalPower left right position

namespace Expression

mutual

def eval : Expression → Except ExpressionError Value
  | .literal value _ => .ok value
  | .signed sign operand _ => do
    let value ← operand.eval
    .ok (sign.apply value)
  | .binary operator left right position => do
    let left ← left.eval
    let right ← right.eval
    operator.apply left right position
  | .call name arguments position => do
    let values ← evalAll arguments
    Builtin.call name values position

def evalAll : List Expression → Except ExpressionError (List Value)
  | [] => .ok []
  | first :: others => do
    let value ← first.eval
    let values ← evalAll others
    .ok (value :: values)

end

def read (text : Text) : Except ExpressionError Expression := do
  let tokens ← tokenize text
  ofTokens tokens

def value (text : Text) : Except ExpressionError Value := do
  let tree ← read text
  tree.eval

end Expression
end DiagramScript
