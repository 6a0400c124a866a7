import DiagramScript.Expression.Token

/-! What can be wrong with a numeric expression, and how it is put into words. -/
namespace DiagramScript

inductive ExpressionError where
  | unexpectedCharacter (found : Char) (position : Nat)
  /-- No expression goes on with this token. -/
  | unexpectedToken (token : Token) (position : Nat)
  | unexpectedEnd
  /-- The parenthesis opened at the position is not closed where its contents end. -/
  | unclosedParen (position : Nat)
  /-- The expression is complete before this token. -/
  | trailingToken (token : Token) (position : Nat)
  | unknownName (name : Text) (position : Nat)
  | unknownFunction (name : Text) (position : Nat)
  | argumentCount (name : Text) (expected found : Nat)
  | divisionByZero (position : Nat)
  | overflow (position : Nat)
  | tooDeeplyNested (position : Nat)
  | noSquareRoot (argument : Value)
  | notANumber (text : Text)
deriving DecidableEq

def ExpressionError.message : ExpressionError → String
  | .unexpectedCharacter found position =>
    s!"unexpected character '{found}' at column {position + 1}"
  | .unexpectedToken token position =>
    s!"unexpected {String.ofList token.describe} at column {position + 1}"
  | .unexpectedEnd => "unexpected end of expression"
  | .unclosedParen position => s!"the '(' at column {position + 1} is never closed"
  | .trailingToken token position =>
    s!"extra {String.ofList token.describe} at column {position + 1} after the expression"
  | .unknownName name position =>
    s!"unknown name '{String.ofList name}' at column {position + 1}; only i, j and pi are allowed"
  | .unknownFunction name position =>
    s!"unknown function '{String.ofList name}' at column {position + 1}"
  | .argumentCount name expected found =>
    s!"'{String.ofList name}' takes {expected} argument(s) but was given {found}"
  | .divisionByZero position => s!"division by zero at column {position + 1}"
  | .overflow position => s!"power at column {position + 1} is too large"
  | .tooDeeplyNested position => s!"expression is nested too deeply at column {position + 1}"
  | .noSquareRoot argument =>
    s!"sqrt is only defined for non-negative real numbers, not {String.ofList argument.display}"
  | .notANumber text => s!"'{String.ofList text}' is not a number"

end DiagramScript
