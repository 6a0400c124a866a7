import DiagramScript.Complex.Basic
import DiagramScript.Number.Arithmetic
import DiagramScript.Number.Shortest

/-! Equality and text of complex numbers over binary floating point. -/
namespace DiagramScript.Complex

def agrees (z w : Complex Binary64) : Bool := z.re.agrees w.re && z.im.agrees w.im

def display (z : Complex Binary64) : Text :=
  if z.isZero then ['0']
  else if z.im.isZero then z.re.display
  else if z.re.isZero then z.im.display ++ ['i']
  else if z.im.isPositive then z.re.display ++ " + ".toList ++ z.im.display ++ ['i']
  else z.re.display ++ " - ".toList ++ (-z.im).display ++ ['i']

end DiagramScript.Complex
