import DiagramScript.Expression.Token

/-! Trees of numeric expressions. -/
namespace DiagramScript

inductive Sign where
  | minus
  | plus
deriving DecidableEq

/-- An expression. Each node keeps the byte offset of the piece of text that made it: a literal
or a call that of its first token, a sign or an operator its own. Parentheses leave no node. -/
inductive Expression where
  | literal (value : Value) (position : Nat)
  | signed (sign : Sign) (operand : Expression) (position : Nat)
  | binary (operator : Operator) (left right : Expression) (position : Nat)
  | call (name : Text) (arguments : List Expression) (position : Nat)

namespace Expression

mutual

def agrees : Expression → Expression → Bool
  | .literal value position, .literal value' position' =>
    value.agrees value' && position == position'
  | .signed sign operand position, .signed sign' operand' position' =>
    sign == sign' && operand.agrees operand' && position == position'
  | .binary operator left right position, .binary operator' left' right' position' =>
    operator == operator' && left.agrees left' && right.agrees right' && position == position'
  | .call name arguments position, .call name' arguments' position' =>
    name == name' && agreesAll arguments arguments' && position == position'
  | _, _ => false

def agreesAll : List Expression → List Expression → Bool
  | [], [] => true
  | first :: others, first' :: others' => first.agrees first' && agreesAll others others'
  | _, _ => false

end

end Expression
end DiagramScript
