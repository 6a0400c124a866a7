import DiagramScript.Complex.Elementary
import DiagramScript.Complex.Power
import DiagramScript.Expression.Error

/-! Powers of values. Whole exponents multiply, real powers of non-negative numbers and complex
powers go through the elementary functions, and a power without a finite value is an error. -/
namespace DiagramScript

/-- Why a base has no power: zero would have to be divided by, any other base is too large. -/
def powerError (base : Value) (position : Nat) : ExpressionError :=
  if base.isZero then .divisionByZero position else .overflow position

def wholeExponent? (exponent : Value) : Option Int :=
  if exponent.isReal then exponent.re.toSafeInteger? else none

def generalPower (base exponent : Value) : Value :=
  if base.isReal && base.re.isNonnegative && exponent.isReal then
    Complex.ofReal (base.re.pow exponent.re)
  else base.pow exponent

def evalPower (base exponent : Value) (position : Nat) : Except ExpressionError Value :=
  match wholeExponent? exponent with
  | some whole =>
    match base.powInt? whole with
    | some power => .ok power
    | none => .error (powerError base position)
  | none =>
    if base.isZero then
      if exponent.re.isPositive then .ok Complex.zero else .error (powerError base position)
    else
      let power := generalPower base exponent
      if power.isFinite then .ok power else .error (powerError base position)

end DiagramScript
