/-! What complex arithmetic needs of its parts. The operations of a scalar may round; the laws of a
field are not assumed. -/
namespace DiagramScript

class Scalar (α : Type) extends Add α, Neg α, Mul α, Div α where
  zero : α
  one : α
  /-- The sum of a product and a third number, rounded once at most. -/
  mulAdd : α → α → α → α
  isZero : α → Bool
  isFinite : α → Bool

end DiagramScript
