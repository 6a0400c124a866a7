import DiagramScript.Complex.Basic
import DiagramScript.Number.Elementary

/-! Length, angle, exponential and principal logarithm of complex numbers. -/
namespace DiagramScript.Complex

def abs (z : Complex Binary64) : Binary64 := z.re.hypot z.im

def arg (z : Complex Binary64) : Binary64 := z.im.atan2 z.re

def exp (z : Complex Binary64) : Complex Binary64 :=
  let length := z.re.exp
  ⟨length * z.im.cos, length * z.im.sin⟩

def log (z : Complex Binary64) : Complex Binary64 := ⟨z.abs.log, z.arg⟩

def pow (z exponent : Complex Binary64) : Complex Binary64 := (exponent * z.log).exp

end DiagramScript.Complex
