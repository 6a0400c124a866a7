import DiagramScript.Expression.Error

/-! The functions that expressions can call. -/
namespace DiagramScript

structure Builtin where
  name : Text
  arity : Nat
  apply : List Value → Except ExpressionError Value

namespace Builtin

def sqrt : Builtin where
  name := "sqrt".toList
  arity := 1
  apply
    | [x] =>
      if x.isReal && x.re.isNonnegative then .ok (Complex.ofReal x.re.sqrt)
      else .error (.noSquareRoot x)
    | arguments => .error (.argumentCount "sqrt".toList 1 arguments.length)

def all : List Builtin := [sqrt]

def call (name : Text) (arguments : List Value) (position : Nat) :
    Except ExpressionError Value :=
  match all.find? (fun builtin => builtin.name == name) with
  | none => .error (.unknownFunction name position)
  | some builtin =>
    if arguments.length = builtin.arity then builtin.apply arguments
    else .error (.argumentCount name builtin.arity arguments.length)

end Builtin
end DiagramScript
