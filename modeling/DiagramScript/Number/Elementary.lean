import DiagramScript.Number.Arithmetic

/-! Elementary functions of binary floating point numbers. They are the machine's own: their
results are close to the exact ones, but not always the nearest numbers, and nothing here depends
on their last digits. -/
namespace DiagramScript.Binary64

def toFloat (x : Binary64) : Float :=
  Float.ofBits (UInt64.ofNat x.bits)

def ofFloat (x : Float) : Binary64 :=
  ofBits x.toBits.toNat

def exp (x : Binary64) : Binary64 := ofFloat x.toFloat.exp

def log (x : Binary64) : Binary64 := ofFloat x.toFloat.log

def sin (x : Binary64) : Binary64 := ofFloat x.toFloat.sin

def cos (x : Binary64) : Binary64 := ofFloat x.toFloat.cos

def atan2 (y x : Binary64) : Binary64 := ofFloat (y.toFloat.atan2 x.toFloat)

def pow (x y : Binary64) : Binary64 := ofFloat (x.toFloat.pow y.toFloat)

def pi : Binary64 := .finite false ⟨0x400921fb54442d18, by decide⟩

end DiagramScript.Binary64
