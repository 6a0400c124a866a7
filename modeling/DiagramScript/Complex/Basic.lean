import DiagramScript.Number.Scalar

/-! Complex numbers over any scalar, with the operations built from the scalar's own. Over exact
scalars these are the field operations; over rounded ones each formula fixes where the rounding
happens. -/
namespace DiagramScript

structure Complex (α : Type) where
  re : α
  im : α
deriving DecidableEq

namespace Complex

variable {α : Type} [Scalar α]

def ofReal (x : α) : Complex α := ⟨x, Scalar.zero⟩

def zero : Complex α := ofReal Scalar.zero

def one : Complex α := ofReal Scalar.one

def i : Complex α := ⟨Scalar.zero, Scalar.one⟩

def isReal (z : Complex α) : Bool := Scalar.isZero z.im

def isZero (z : Complex α) : Bool := Scalar.isZero z.re && Scalar.isZero z.im

def isFinite (z : Complex α) : Bool := Scalar.isFinite z.re && Scalar.isFinite z.im

def neg (z : Complex α) : Complex α := ⟨-z.re, -z.im⟩

def add (z w : Complex α) : Complex α := ⟨z.re + w.re, z.im + w.im⟩

def sub (z w : Complex α) : Complex α := ⟨z.re + -w.re, z.im + -w.im⟩

/-- Product; in each part the second of the two products is rounded first, then joins the first
with a single rounding. -/
def mul (z w : Complex α) : Complex α :=
  ⟨Scalar.mulAdd z.re w.re (-(z.im * w.im)), Scalar.mulAdd z.re w.im (z.im * w.re)⟩

/-- Quotient. A real divisor divides the parts; for any other one the dividend is multiplied by
its conjugate and divided by its squared length. -/
def div (z w : Complex α) : Complex α :=
  if w.isReal then ⟨z.re / w.re, z.im / w.re⟩
  else
    let square := Scalar.mulAdd w.re w.re (w.im * w.im)
    ⟨Scalar.mulAdd z.re w.re (z.im * w.im) / square,
      Scalar.mulAdd z.im w.re (-(z.re * w.im)) / square⟩

def recip (z : Complex α) : Complex α :=
  let square := z.re * z.re + z.im * z.im
  ⟨z.re / square, -(z.im / square)⟩

instance : Neg (Complex α) := ⟨neg⟩
instance : Add (Complex α) := ⟨add⟩
instance : Sub (Complex α) := ⟨sub⟩
instance : Mul (Complex α) := ⟨mul⟩
instance : Div (Complex α) := ⟨div⟩

end Complex
end DiagramScript
