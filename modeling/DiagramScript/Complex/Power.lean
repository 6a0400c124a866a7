import DiagramScript.Complex.Basic

/-! Integer powers of complex numbers by repeated squaring. A power has no value where zero is
raised below zero, or as soon as a factor stops being finite. -/
namespace DiagramScript.Complex

variable {α : Type} [Scalar α]

def finite? (z : Complex α) : Option (Complex α) :=
  if z.isFinite then some z else none

def powerFrom (result base : Complex α) (n : Nat) : Option (Complex α) :=
  if n = 0 then some result
  else do
    let result ← if n % 2 = 1 then finite? (result * base) else some result
    let base ← if n / 2 = 0 then some base else finite? (base * base)
    powerFrom result base (n / 2)
termination_by n
decreasing_by omega

def powInt? (z : Complex α) (exponent : Int) : Option (Complex α) :=
  if exponent = 0 then some one
  else if z.isZero ∧ exponent < 0 then none
  else do
    let power ← powerFrom one z exponent.natAbs
    finite? (if exponent < 0 then power.recip else power)

end DiagramScript.Complex
