import DiagramScript.Complex.Display

/-! Tokens of numeric expressions and the operators they stand for. -/
namespace DiagramScript

abbrev Value := Complex Binary64

inductive Operator where
  | add
  | sub
  | mul
  | div
  | pow
deriving DecidableEq

inductive Token where
  | number (value : Binary64)
  | name (text : Text)
  | doubleStar
  | caret
  | plus
  | minus
  | star
  | slash
  | leftParen
  | rightParen
  | comma
deriving DecidableEq

structure Placed where
  token : Token
  position : Nat
deriving DecidableEq

namespace Operator

def isAdditive : Operator → Bool
  | .add => true
  | .sub => true
  | _ => false

def isMultiplicative : Operator → Bool
  | .mul => true
  | .div => true
  | _ => false

def symbol : Operator → Char
  | .add => '+'
  | .sub => '-'
  | .mul => '*'
  | .div => '/'
  | .pow => '^'

end Operator

namespace Token

def operator? : Token → Option Operator
  | .plus => some .add
  | .minus => some .sub
  | .star => some .mul
  | .slash => some .div
  | .caret => some .pow
  | .doubleStar => some .pow
  | _ => none

def describe : Token → Text
  | .number value => "number ".toList ++ value.display
  | .name text => "name '".toList ++ text ++ ['\'']
  | .doubleStar => "'**'".toList
  | .caret => "'^'".toList
  | .plus => "'+'".toList
  | .minus => "'-'".toList
  | .star => "'*'".toList
  | .slash => "'/'".toList
  | .leftParen => "'('".toList
  | .rightParen => "')'".toList
  | .comma => "','".toList

end Token
end DiagramScript
