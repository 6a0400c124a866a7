import DiagramScript.Complex.Display

/-! Places on the plane. The vertical axis doubles as the imaginary one, so a complex number is a
place too. -/
namespace DiagramScript

structure Coordinate where
  x : Binary64
  y : Binary64
deriving DecidableEq

namespace Coordinate

def ofComplex (z : Complex Binary64) : Coordinate := ⟨z.re, z.im⟩

def agrees (p q : Coordinate) : Bool := p.x.agrees q.x && p.y.agrees q.y

def display (p : Coordinate) : Text :=
  '(' :: p.x.display ++ ", ".toList ++ p.y.display ++ [')']

end Coordinate
end DiagramScript
