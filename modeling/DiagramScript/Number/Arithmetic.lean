import DiagramScript.Number.Binary64
import DiagramScript.Number.Scalar

/-! Arithmetic of binary floating point numbers. Each operation computes its exact result as a
ratio of units and rounds it once; what is left are the rules for infinities, NaN and the sign
of a zero. -/
namespace DiagramScript.Binary64

def neg : Binary64 → Binary64
  | .finite negative rank => .finite (!negative) rank
  | .infinite negative => .infinite (!negative)
  | .nan => .nan

/-- A signed ratio of units, rounded; an exact zero takes the sign that is given for it. -/
def ofSigned (zeroSign : Bool) (numerator : Int) (denominator : Nat) : Binary64 :=
  if numerator = 0 then zero zeroSign
  else ofRatio (numerator < 0) numerator.natAbs denominator

/-- Sum; an exact zero is negative only when both operands are. -/
def add : Binary64 → Binary64 → Binary64
  | .nan, _ => .nan
  | _, .nan => .nan
  | .infinite s, .infinite t => if s = t then .infinite s else .nan
  | .infinite s, .finite _ _ => .infinite s
  | .finite _ _, .infinite t => .infinite t
  | .finite s a, .finite t b =>
    ofSigned (s && t) (signed s (magnitude a) + signed t (magnitude b)) 1

def mul : Binary64 → Binary64 → Binary64
  | .nan, _ => .nan
  | _, .nan => .nan
  | .infinite s, .infinite t => .infinite (s ^^ t)
  | .infinite s, .finite t b => if b.val = 0 then .nan else .infinite (s ^^ t)
  | .finite s a, .infinite t => if a.val = 0 then .nan else .infinite (s ^^ t)
  | .finite s a, .finite t b => ofRatio (s ^^ t) (magnitude a * magnitude b) unitsPerOne

def div : Binary64 → Binary64 → Binary64
  | .nan, _ => .nan
  | _, .nan => .nan
  | .infinite _, .infinite _ => .nan
  | .infinite s, .finite t _ => .infinite (s ^^ t)
  | .finite s _, .infinite t => zero (s ^^ t)
  | .finite s a, .finite t b =>
    if b.val = 0 then
      if a.val = 0 then .nan else .infinite (s ^^ t)
    else ofRatio (s ^^ t) (magnitude a * unitsPerOne) (magnitude b)

/-- Product and sum with a single rounding at the end. -/
def mulAdd : Binary64 → Binary64 → Binary64 → Binary64
  | .finite s a, .finite t b, .finite r c =>
    ofSigned ((s ^^ t) && r)
      (signed (s ^^ t) (magnitude a * magnitude b) + signed r (magnitude c * unitsPerOne))
      unitsPerOne
  | .finite _ _, .finite _ _, c => c
  | a, b, c => add (mul a b) c

/-- The number nearest to the square root of a count of squared units. The root is found to a
quarter of a unit; an odd last bit stands for what is left over. -/
def ofSquare (negative : Bool) (squaredUnits : Nat) : Binary64 :=
  let root := (16 * squaredUnits).sqrt
  let rest := if root * root = 16 * squaredUnits then 0 else 1
  ofRatio negative (2 * root + rest) 8

def sqrt : Binary64 → Binary64
  | .nan => .nan
  | .infinite negative => if negative then .nan else .infinite false
  | .finite negative rank =>
    if rank.val = 0 then zero negative
    else if negative then .nan
    else ofSquare false (magnitude rank * unitsPerOne)

def hypot : Binary64 → Binary64 → Binary64
  | .infinite _, _ => .infinite false
  | _, .infinite _ => .infinite false
  | .finite _ a, .finite _ b =>
    ofSquare false (magnitude a * magnitude a + magnitude b * magnitude b)
  | _, _ => .nan

def safeInteger : Nat := 2 * binade - 1

def toSafeInteger? : Binary64 → Option Int
  | .finite negative rank =>
    let whole := magnitude rank / unitsPerOne
    if magnitude rank % unitsPerOne = 0 ∧ whole ≤ safeInteger then some (signed negative whole)
    else none
  | .infinite _ => none
  | .nan => none

instance : Scalar Binary64 where
  add := add
  neg := neg
  mul := mul
  div := div
  zero := zero false
  one := one
  mulAdd := mulAdd
  isZero := isZero
  isFinite := isFinite

end DiagramScript.Binary64
