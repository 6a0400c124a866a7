/-! Binary floating point numbers with a significand of 53 bits, as exact data.

The finite magnitudes are numbered from zero upwards; the number of a magnitude is its rank. All
of them are whole multiples of one unit, `2 ^ (-1074)`, so every exact result that has to be
rounded is a ratio of natural numbers of units. Main statement: `nearestRank_magnitude`, rounding
leaves a magnitude that is already representable as it is. -/
namespace DiagramScript

/-- Ranks from a power of two up to the next one: `2 ^ 52`, one for every fraction. -/
def Binary64.binade : Nat := 0x10000000000000

def Binary64.finiteCount : Nat := 2047 * binade

/-- A binary floating point number. All NaNs count as one value; zero has two signs. -/
inductive Binary64 where
  | finite (negative : Bool) (rank : Fin Binary64.finiteCount)
  | infinite (negative : Bool)
  | nan
deriving DecidableEq

/-- The quotient rounded to the nearest natural number, a tie to the even one. -/
def divNearest (numerator denominator : Nat) : Nat :=
  let quotient := numerator / denominator
  let twice := 2 * (numerator % denominator)
  if twice < denominator then quotient
  else if denominator < twice then quotient + 1
  else if quotient % 2 = 0 then quotient
  else quotient + 1

theorem divNearest_mul_self (n : Nat) {denominator : Nat} (positive : 0 < denominator) :
    divNearest (n * denominator) denominator = n := by
  simp [divNearest, Nat.mul_div_cancel n positive, positive]

namespace Binary64

/-- One, in units: `2 ^ 1074`. -/
def unitsPerOne : Nat := 1 <<< 1074

def doublings (rank : Nat) : Nat :=
  rank / binade - 1

/-- The magnitude of a rank, in units: below `2 ^ 53` the rank itself, and from there on a
significand of 53 bits that is doubled once for every further `2 ^ 52` ranks. -/
def magnitude (rank : Nat) : Nat :=
  (rank - doublings rank * binade) <<< doublings rank

def doublingsNear (numerator denominator : Nat) : Nat :=
  (numerator / denominator).log2 - 52

/-- The rank whose magnitude is nearest to a ratio of units, a tie to the even rank. The result
may lie beyond the finite ranks. -/
def nearestRank (numerator denominator : Nat) : Nat :=
  doublingsNear numerator denominator * binade +
    divNearest numerator (denominator <<< doublingsNear numerator denominator)

def ofRatio (negative : Bool) (numerator denominator : Nat) : Binary64 :=
  if inRange : nearestRank numerator denominator < finiteCount then
    .finite negative ⟨nearestRank numerator denominator, inRange⟩
  else
    .infinite negative

def zero (negative : Bool) : Binary64 :=
  .finite negative ⟨0, by decide⟩

def one : Binary64 :=
  .finite false ⟨1023 * binade, by decide⟩

def signed (negative : Bool) (units : Nat) : Int :=
  if negative then -units else units

def units : Binary64 → Int
  | .finite negative rank => signed negative (magnitude rank)
  | .infinite _ => 0
  | .nan => 0

def isFinite : Binary64 → Bool
  | .finite _ _ => true
  | .infinite _ => false
  | .nan => false

def isZero : Binary64 → Bool
  | .finite _ rank => rank.val == 0
  | .infinite _ => false
  | .nan => false

/-- The place on the line of all numbers but NaN, infinity standing where the next magnitude
after the finite ones would stand. -/
def place? : Binary64 → Option Int
  | .finite negative rank => some (signed negative (magnitude rank))
  | .infinite negative => some (signed negative (magnitude finiteCount))
  | .nan => none

def equals (x y : Binary64) : Bool :=
  match x.place?, y.place? with
  | some p, some q => p == q
  | _, _ => false

def less (x y : Binary64) : Bool :=
  match x.place?, y.place? with
  | some p, some q => p < q
  | _, _ => false

def agrees (x y : Binary64) : Bool :=
  x.place? == y.place?

def isPositive (x : Binary64) : Bool :=
  (zero false).less x

def isNonnegative (x : Binary64) : Bool :=
  x.isPositive || x.isZero

def signBit : Nat := 2048 * binade

def bits : Binary64 → Nat
  | .finite negative rank => (if negative then signBit else 0) + rank
  | .infinite negative => (if negative then signBit else 0) + finiteCount
  | .nan => finiteCount + binade / 2

def ofBits (bits : Nat) : Binary64 :=
  let negative := bits / signBit % 2 == 1
  let rank := bits % signBit
  if inRange : rank < finiteCount then .finite negative ⟨rank, inRange⟩
  else if rank = finiteCount then .infinite negative
  else .nan

theorem binade_eq : binade = 4503599627370496 := rfl

theorem log2_magnitude (rank : Nat) : (magnitude rank).log2 - 52 = doublings rank := by
  have form : magnitude rank = (rank - doublings rank * binade) * 2 ^ doublings rank := by
    rw [magnitude, Nat.shiftLeft_eq]
  have size : doublings rank = rank / 4503599627370496 - 1 := rfl
  rw [binade_eq] at form
  by_cases small : rank < 2 ^ 53
  · have flat : doublings rank = 0 := by omega
    rw [flat] at form ⊢
    by_cases none : rank = 0
    · rw [form, none]; rfl
    · have := (Nat.log2_lt none).mpr small
      have self : magnitude rank = rank := by omega
      rw [self]
      omega
  · have significand : rank - doublings rank * 4503599627370496 =
        2 ^ 52 + rank % 4503599627370496 := by omega
    rw [significand] at form
    have low : 2 ^ (52 + doublings rank) ≤ magnitude rank := by
      rw [form, Nat.pow_add]
      exact Nat.mul_le_mul_right _ (Nat.le_add_right _ _)
    have high : magnitude rank < 2 ^ (53 + doublings rank) := by
      rw [form, Nat.pow_add]
      exact Nat.mul_lt_mul_of_pos_right (by omega) (Nat.two_pow_pos _)
    have nonzero : magnitude rank ≠ 0 := by
      have := Nat.two_pow_pos (52 + doublings rank)
      omega
    have below := (Nat.log2_lt nonzero).mpr high
    have above := (Nat.le_log2 nonzero).mpr low
    omega

theorem nearestRank_magnitude (rank : Nat) {scale : Nat} (positive : 0 < scale) :
    nearestRank (magnitude rank * scale) scale = rank := by
  have near : doublingsNear (magnitude rank * scale) scale = doublings rank := by
    rw [doublingsNear, Nat.mul_div_cancel _ positive, log2_magnitude]
  have split : magnitude rank * scale =
      (rank - doublings rank * binade) * (scale * 2 ^ doublings rank) := by
    rw [magnitude, Nat.shiftLeft_eq, Nat.mul_assoc, Nat.mul_comm (2 ^ _) scale]
  have inverse : doublings rank * binade + (rank - doublings rank * binade) = rank := by
    have size : doublings rank = rank / 4503599627370496 - 1 := rfl
    rw [binade_eq]
    omega
  rw [nearestRank, near, split, Nat.shiftLeft_eq,
    divNearest_mul_self _ (Nat.mul_pos positive (Nat.two_pow_pos _)), inverse]

theorem ofRatio_magnitude (negative : Bool) (rank : Fin finiteCount) {scale : Nat}
    (positive : 0 < scale) :
    ofRatio negative (magnitude rank * scale) scale = .finite negative rank := by
  simp [ofRatio, nearestRank_magnitude rank.val positive]

end Binary64
end DiagramScript
