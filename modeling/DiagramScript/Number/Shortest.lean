import DiagramScript.Number.Decimal

/-! Decimal text of binary numbers with as few digits as read back to the same number. -/
namespace DiagramScript

namespace Decimal

def dropTrailingZeros (digits : Text) : Text :=
  (digits.reverse.dropWhile (· == '0')).reverse

def padded (width n : Nat) : Text :=
  let digits := Nat.toDigits 10 n
  List.replicate (width - digits.length) '0' ++ digits

def positional (d : Decimal) : Text :=
  match d.exponent with
  | .ofNat e => Nat.toDigits 10 (d.digits * tenTo e)
  | .negSucc k =>
    let whole := Nat.toDigits 10 (d.digits / tenTo (k + 1))
    match dropTrailingZeros (padded (k + 1) (d.digits % tenTo (k + 1))) with
    | [] => whole
    | fraction => whole ++ '.' :: fraction

def steps (units : Nat) : (exponent : Int) → Nat × Nat
  | .ofNat e => (units, tenTo e * Binary64.unitsPerOne)
  | .negSucc k => (units * tenTo (k + 1), Binary64.unitsPerOne)

/-- The two multiples of `10 ^ exponent` around a magnitude, the nearer one first, and of two that
are equally near the larger one. -/
def neighbours (units : Nat) (exponent : Int) : List Decimal :=
  let (numerator, denominator) := steps units exponent
  let below := numerator / denominator
  if 2 * (numerator % denominator) < denominator then
    [⟨below, exponent⟩, ⟨below + 1, exponent⟩]
  else [⟨below + 1, exponent⟩, ⟨below, exponent⟩]

/-- An exponent `e` with the magnitude below `10 ^ e`, too large by one at most for the numbers
in question: `30103 / 100000` is a little more than the decimal logarithm of two. -/
def exponentAbove (units : Nat) : Int :=
  ((units.log2 : Int) - 1073) * 30103 / 100000 + 1

def search (rank : Fin Binary64.finiteCount) : (grids : Nat) → (exponent : Int) → Option Decimal
  | 0, _ => none
  | grids + 1, exponent =>
    match (neighbours (Binary64.magnitude rank) exponent).find?
        (fun d => d.toBinary64 false = .finite false rank) with
    | some d => some d
    | none => search rank grids (exponent - 1)

/-- The decimal with the fewest digits that reads back to a finite magnitude, of those the one
nearest to it. Seventeen digits always suffice; the exact value stands behind them. -/
def shortest (rank : Fin Binary64.finiteCount) : Decimal :=
  let units := Binary64.magnitude rank
  (search rank 20 (exponentAbove units)).getD ⟨units * Nat.pow 5 1074, -1074⟩

end Decimal

def Binary64.display : Binary64 → Text
  | .finite negative rank =>
    let digits := if rank.val = 0 then ['0'] else (Decimal.shortest rank).positional
    if negative then '-' :: digits else digits
  | .infinite negative => if negative then "-inf".toList else "inf".toList
  | .nan => "NaN".toList

end DiagramScript
