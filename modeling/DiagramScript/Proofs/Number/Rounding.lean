import DiagramScript.Number.Decimal
import Mathlib.Algebra.Order.Field.Rat
import Mathlib.Tactic.Ring

/-! Rounding looks at the value only. A ratio in any terms is rounded to the same number, and a
decimal is read as the number nearest to its value (`Decimal.toBinary64_eq_ofRatio`), so decimals of
one value are read as one number (`Decimal.toBinary64_congr`). -/
namespace DiagramScript

theorem divNearest_mul_right (numerator denominator : Nat) {scale : Nat} (positive : 0 < scale) :
    divNearest (numerator * scale) (denominator * scale) = divNearest numerator denominator := by
  have quotient : numerator * scale / (denominator * scale) = numerator / denominator :=
    Nat.mul_div_mul_right _ _ positive
  have rest : 2 * (numerator * scale % (denominator * scale)) =
      2 * (numerator % denominator) * scale := by
    rw [Nat.mul_mod_mul_right, Nat.mul_assoc]
  simp only [divNearest, quotient, rest, Nat.mul_lt_mul_right positive]

theorem divNearest_of_small {numerator denominator : Nat} (small : 2 * numerator < denominator) :
    divNearest numerator denominator = 0 := by
  have quotient : numerator / denominator = 0 := Nat.div_eq_of_lt (by omega)
  have rest : numerator % denominator = numerator := Nat.mod_eq_of_lt (by omega)
  simp [divNearest, quotient, rest, small]

theorem div_le_divNearest (numerator denominator : Nat) :
    numerator / denominator ≤ divNearest numerator denominator := by
  unfold divNearest
  dsimp only
  split
  · exact Nat.le_refl _
  · split
    · exact Nat.le_succ _
    · split
      · exact Nat.le_refl _
      · exact Nat.le_succ _

namespace Binary64

theorem nearestRank_mul_right (numerator denominator : Nat) {scale : Nat} (positive : 0 < scale) :
    nearestRank (numerator * scale) (denominator * scale) = nearestRank numerator denominator := by
  have near : doublingsNear (numerator * scale) (denominator * scale) =
      doublingsNear numerator denominator := by
    rw [doublingsNear, Nat.mul_div_mul_right _ _ positive, doublingsNear]
  have shifted : (denominator * scale) <<< doublingsNear numerator denominator =
      denominator <<< doublingsNear numerator denominator * scale := by
    rw [Nat.shiftLeft_eq, Nat.shiftLeft_eq, Nat.mul_right_comm]
  rw [nearestRank, near, shifted, divNearest_mul_right _ _ positive, nearestRank]

theorem ofRatio_mul_right (negative : Bool) (numerator denominator : Nat) {scale : Nat}
    (positive : 0 < scale) :
    ofRatio negative (numerator * scale) (denominator * scale) =
      ofRatio negative numerator denominator := by
  simp only [ofRatio, nearestRank_mul_right _ _ positive]

theorem ofRatio_congr (negative : Bool) {n d n' d' : Nat} (positive : 0 < d) (positive' : 0 < d')
    (same : n * d' = n' * d) : ofRatio negative n d = ofRatio negative n' d' := by
  rw [← ofRatio_mul_right negative n d positive', same, Nat.mul_comm d d',
    ofRatio_mul_right negative n' d' positive]

theorem ofRatio_of_small (negative : Bool) {numerator denominator : Nat}
    (small : 2 * numerator < denominator) :
    ofRatio negative numerator denominator = zero negative := by
  have quotient : numerator / denominator = 0 := Nat.div_eq_of_lt (by omega)
  have rank : nearestRank numerator denominator = 0 := by
    have near : doublingsNear numerator denominator = 0 := by rw [doublingsNear, quotient]; rfl
    rw [nearestRank, near, Nat.shiftLeft_zero, divNearest_of_small small]
    rfl
  simp [ofRatio, rank, zero, finiteCount, binade_eq]

theorem ofRatio_of_huge (negative : Bool) {units : Nat} (huge : 2098 ≤ units.log2) :
    ofRatio negative units 1 = .infinite negative := by
  have nonzero : units ≠ 0 := by
    rintro rfl
    exact absurd huge (by decide)
  have near : doublingsNear units 1 = units.log2 - 52 := by rw [doublingsNear, Nat.div_one]
  have significand : 2 ^ 52 ≤ units / (1 <<< (units.log2 - 52)) := by
    rw [Nat.shiftLeft_eq, Nat.one_mul, Nat.le_div_iff_mul_le (Nat.two_pow_pos _), ← Nat.pow_add,
      Nat.add_sub_cancel' (by omega)]
    exact Nat.log2_self_le nonzero
  have rounded := div_le_divNearest units (1 <<< (units.log2 - 52))
  have beyond : ¬nearestRank units 1 < finiteCount := by
    rw [nearestRank, near, finiteCount, binade_eq]
    omega
  rw [ofRatio, dif_neg beyond]

theorem ofRatio_of_positive {numerator denominator : Nat} {rank : Fin finiteCount}
    (rounded : ofRatio false numerator denominator = .finite false rank) (negative : Bool) :
    ofRatio negative numerator denominator = .finite negative rank := by
  unfold ofRatio at rounded ⊢
  split at rounded
  · rename_i inRange
    cases rounded
    rw [dif_pos inRange]
  · cases rounded

end Binary64

namespace Decimal

def value (d : Decimal) : ℚ := d.digits * 10 ^ d.exponent

def numerator (d : Decimal) : Nat :=
  match d.exponent with
  | .ofNat e => d.digits * tenTo e * Binary64.unitsPerOne
  | .negSucc _ => d.digits * Binary64.unitsPerOne

def denominator (d : Decimal) : Nat :=
  match d.exponent with
  | .ofNat _ => 1
  | .negSucc k => tenTo (k + 1)

theorem tenTo_eq (exponent : Nat) : tenTo exponent = 10 ^ exponent := rfl

theorem denominator_pos (d : Decimal) : 0 < d.denominator := by
  unfold denominator
  split
  · exact Nat.one_pos
  · rw [tenTo_eq]
    exact Nat.pow_pos (by decide)

theorem ratio_eq_value (d : Decimal) :
    (d.numerator : ℚ) / d.denominator = d.value * Binary64.unitsPerOne := by
  rcases d with ⟨digits, e | k⟩
  · simp only [numerator, denominator, value, tenTo_eq]
    push_cast
    rw [Int.ofNat_eq_natCast, zpow_natCast, div_one]
  · simp only [numerator, denominator, value, tenTo_eq]
    push_cast
    rw [zpow_negSucc]
    ring

theorem two_pow_le_tenTo (exponent : Nat) : 2 ^ (3 * exponent) ≤ tenTo exponent := by
  rw [Nat.pow_mul, tenTo_eq]
  exact Nat.pow_le_pow_left (by decide) exponent

theorem log2_mul_tenTo {digits : Nat} (nonzero : digits ≠ 0) (e bits : Nat) :
    digits.log2 + 3 * e + bits ≤ (digits * tenTo e * 1 <<< bits).log2 := by
  have bound : 2 ^ (digits.log2 + 3 * e + bits) ≤ digits * tenTo e * 1 <<< bits := by
    rw [Nat.one_shiftLeft, Nat.pow_add, Nat.pow_add]
    exact Nat.mul_le_mul_right _
      (Nat.mul_le_mul (Nat.log2_self_le nonzero) (two_pow_le_tenTo e))
  exact (Nat.le_log2 (Nat.lt_of_lt_of_le (Nat.two_pow_pos _) bound).ne').mpr bound

theorem twice_mul_lt_tenTo {digits k bits : Nat} (small : digits.log2 + (bits + 2) ≤ 3 * (k + 1)) :
    2 * (digits * 1 <<< bits) < tenTo (k + 1) := by
  calc 2 * (digits * 1 <<< bits)
    _ = digits * 2 ^ (bits + 1) := by rw [Nat.one_shiftLeft, Nat.pow_succ]; ring
    _ < 2 ^ (digits.log2 + 1) * 2 ^ (bits + 1) :=
      Nat.mul_lt_mul_of_pos_right Nat.lt_log2_self (Nat.two_pow_pos _)
    _ = 2 ^ (digits.log2 + (bits + 2)) := by rw [← Nat.pow_add, Nat.add_assoc]; congr 1; omega
    _ ≤ 2 ^ (3 * (k + 1)) := Nat.pow_le_pow_right (by decide) small
    _ ≤ tenTo (k + 1) := two_pow_le_tenTo (k + 1)

/-- The short cuts for very large and very small exponents round as everything else does. -/
theorem toBinary64_eq_ofRatio (negative : Bool) (d : Decimal) :
    d.toBinary64 negative = .ofRatio negative d.numerator d.denominator := by
  by_cases nothing : d.digits = 0
  · have small : 2 * d.numerator < d.denominator := by
      have upper : d.numerator = 0 := by
        unfold numerator
        split <;> simp [nothing]
      rw [upper]
      exact d.denominator_pos
    rw [toBinary64, if_pos nothing, Binary64.ofRatio_of_small negative small]
  · rcases d with ⟨digits, e | k⟩ <;> simp only [toBinary64, if_neg nothing, numerator, denominator]
    · split
      · rename_i large
        -- Every factor of ten has more than three bits.
        have bits : digits.log2 + 3 * e + 1074 ≤ (digits * tenTo e * Binary64.unitsPerOne).log2 :=
          log2_mul_tenTo nothing e 1074
        exact (Binary64.ofRatio_of_huge negative (by omega)).symm
      · rfl
    · split
      · rename_i small
        exact (Binary64.ofRatio_of_small negative (twice_mul_lt_tenTo small)).symm
      · rfl

theorem toBinary64_of_ratio {d : Decimal} {n m : Nat} (positive : 0 < m)
    (same : d.value * Binary64.unitsPerOne = n / m) (negative : Bool) :
    d.toBinary64 negative = .ofRatio negative n m := by
  have lower : (d.denominator : ℚ) ≠ 0 := by exact_mod_cast d.denominator_pos.ne'
  have lower' : (m : ℚ) ≠ 0 := by exact_mod_cast positive.ne'
  rw [← ratio_eq_value, div_eq_div_iff lower lower'] at same
  rw [toBinary64_eq_ofRatio]
  exact Binary64.ofRatio_congr negative d.denominator_pos positive (by exact_mod_cast same)

theorem toBinary64_congr {d d' : Decimal} (same : d.value = d'.value) (negative : Bool) :
    d.toBinary64 negative = d'.toBinary64 negative := by
  rw [toBinary64_eq_ofRatio negative d']
  exact toBinary64_of_ratio d'.denominator_pos (by rw [same, ratio_eq_value]) negative

end Decimal
end DiagramScript
