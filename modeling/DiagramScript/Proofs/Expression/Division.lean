import DiagramScript.Expression.Evaluation
import DiagramScript.Proofs.Expression.Power
import DiagramScript.Proofs.Number.Range

/-! Quotients of values. Only zero is refused as a divisor, and a real divisor divides the parts by
a number that is not zero. Any other divisor divides by its squared length, which is rounded: a part
of the quotient is undefined where the squared length is rounded to zero or to infinity, and the
dividend with it (`Operator.div_outcome`). -/
namespace DiagramScript

namespace Binary64

variable {x y z : Binary64}

theorem ne_nan_of_finite (finite : x.isFinite = true) : x ≠ nan := by
  rintro rfl
  cases finite

theorem ofRatio_ne_nan (negative : Bool) (n d : Nat) : ofRatio negative n d ≠ nan := by
  rcases ofRatio_cases negative n d with ⟨_, number⟩ | ⟨_, number⟩ <;> rw [number] <;> nofun

theorem ofSigned_ne_nan (zeroSign : Bool) (n : Int) (d : Nat) : ofSigned zeroSign n d ≠ nan := by
  unfold ofSigned
  split
  · nofun
  · exact ofRatio_ne_nan _ _ _

theorem mul_ne_nan (finite : x.isFinite = true) (finite' : y.isFinite = true) :
    mul x y ≠ nan := by
  obtain ⟨s, a, rfl⟩ := isFinite_iff.mp finite
  obtain ⟨t, b, rfl⟩ := isFinite_iff.mp finite'
  exact ofRatio_ne_nan _ _ _

theorem neg_ne_nan (defined : x ≠ nan) : neg x ≠ nan := by
  cases x with
  | nan => exact absurd rfl defined
  | _ => nofun

theorem mulAdd_ne_nan (finite : x.isFinite = true) (finite' : y.isFinite = true)
    (defined : z ≠ nan) : mulAdd x y z ≠ nan := by
  obtain ⟨s, a, rfl⟩ := isFinite_iff.mp finite
  obtain ⟨t, b, rfl⟩ := isFinite_iff.mp finite'
  cases z with
  | finite => exact ofSigned_ne_nan _ _ _
  | infinite => nofun
  | nan => exact absurd rfl defined

/-- Zero by zero, or infinity by infinity. -/
def Indeterminate (x y : Binary64) : Prop :=
  x.isZero = true ∧ y.isZero = true ∨ x.isFinite = false ∧ y.isFinite = false

theorem div_eq_nan_iff (defined : x ≠ nan) (defined' : y ≠ nan) :
    div x y = nan ↔ Indeterminate x y := by
  unfold Indeterminate
  cases x with
  | nan => exact absurd rfl defined
  | infinite s => cases y <;> simp_all [div, isZero, isFinite]
  | finite s a =>
    cases y with
    | nan => exact absurd rfl defined'
    | infinite t => simp [div, zero, isZero, isFinite]
    | finite t b =>
      by_cases divisor : b.val = 0
      · by_cases dividend : a.val = 0 <;> simp [div, divisor, dividend, isZero, isFinite]
      · simp [div, divisor, ofRatio_ne_nan, isZero, isFinite]

theorem mulAdd_self_finite (s : Bool) (a r : Fin finiteCount) :
    mulAdd (finite s a) (finite s a) (finite false r) =
      ofRatio false (magnitude a * magnitude a + magnitude r * unitsPerOne) unitsPerOne := by
  rw [← ofSigned_natCast unitsPerOne_pos, mulAdd, Bool.xor_self, Bool.and_false, signed_false,
    signed_false, Int.natCast_add]

end Binary64

namespace Complex

section Scalar

variable {α : Type} [Scalar α]

def squaredLength (w : Complex α) : α := Scalar.mulAdd w.re w.re (w.im * w.im)

def mulConjugate (z w : Complex α) : Complex α :=
  ⟨Scalar.mulAdd z.re w.re (z.im * w.im), Scalar.mulAdd z.im w.re (-(z.re * w.im))⟩

theorem div_of_real (z : Complex α) {w : Complex α} (real : w.isReal = true) :
    z / w = ⟨z.re / w.re, z.im / w.re⟩ :=
  if_pos real

theorem div_of_not_real (z : Complex α) {w : Complex α} (other : w.isReal = false) :
    z / w = ⟨(z.mulConjugate w).re / w.squaredLength, (z.mulConjugate w).im / w.squaredLength⟩ :=
  if_neg (by rw [other]; exact Bool.false_ne_true)

end Scalar

open Binary64

variable {z w : Value}

theorem mulConjugate_ne_nan (finite : z.isFinite = true) (finite' : w.isFinite = true) :
    (z.mulConjugate w).re ≠ nan ∧ (z.mulConjugate w).im ≠ nan := by
  obtain ⟨re, im⟩ := Bool.and_eq_true_iff.mp finite
  obtain ⟨re', im'⟩ := Bool.and_eq_true_iff.mp finite'
  exact ⟨mulAdd_ne_nan re re' (mul_ne_nan im im'),
    mulAdd_ne_nan im re' (neg_ne_nan (mul_ne_nan re im'))⟩

theorem squaredLength_eq (w : Value) :
    w.squaredLength = Binary64.mulAdd w.re w.re (Binary64.mul w.im w.im) := rfl

theorem squaredLength_ne_nan (finite : w.isFinite = true) : w.squaredLength ≠ nan := by
  obtain ⟨re, im⟩ := Bool.and_eq_true_iff.mp finite
  exact mulAdd_ne_nan re re (mul_ne_nan im im)

theorem twice_add_mul_le_iff {n m unit : Nat} (positive : 0 < unit) :
    2 * (n + m * unit) ≤ unit ↔ 2 * n ≤ unit ∧ m = 0 := by
  constructor
  · intro small
    rcases Nat.eq_zero_or_pos m with zero | some
    · rw [zero, Nat.zero_mul] at small
      exact ⟨small, zero⟩
    · have := Nat.le_mul_of_pos_left unit some
      omega
  · rintro ⟨small, zero⟩
    rwa [zero, Nat.zero_mul]

theorem squaredLength_isZero_iff (finite : w.isFinite = true) :
    w.squaredLength.isZero = true ↔
      2 * (w.re.size * w.re.size) ≤ unitsPerOne ∧ 2 * (w.im.size * w.im.size) ≤ unitsPerOne := by
  obtain ⟨s, a, t, b, rfl⟩ := exists_parts finite
  rw [← mul_self_isZero_iff (x := .finite t b) rfl, size_finite]
  rw [squaredLength_eq]
  rcases ofRatio_cases false (magnitude b * magnitude b) unitsPerOne with
    ⟨inRange, number⟩ | ⟨_, number⟩ <;> rw [← finite_mul_self t b] at number
  · rw [number, mulAdd_self_finite, ofRatio_isZero_iff unitsPerOne_pos,
      twice_add_mul_le_iff unitsPerOne_pos, magnitude_eq_zero_iff, Binary64.isZero, beq_iff_eq]
  · rw [number]
    exact iff_of_false Bool.false_ne_true fun both => Bool.false_ne_true both.2

theorem squaredLength_isFinite_of_le (finite : w.isFinite = true)
    (re : 2 * w.re.size ≤ squareLimit) (im : 2 * w.im.size ≤ squareLimit) :
    w.squaredLength.isFinite = true := by
  obtain ⟨s, a, t, b, rfl⟩ := exists_parts finite
  have half : squareLimit = 2 * 1 <<< 1585 := by decide
  have square : 1 <<< 1585 * 1 <<< 1585 = magnitude (2045 * binade) * unitsPerOne := by decide
  have sum : magnitude (2045 * binade) * unitsPerOne + magnitude (2045 * binade) * unitsPerOne =
      magnitude (2046 * binade) * unitsPerOne := by decide
  rw [size_finite, half, Nat.mul_le_mul_left_iff Nat.two_pos] at re im
  have first := Nat.mul_le_mul re re
  have second := Nat.mul_le_mul im im
  rw [square] at first second
  have rank := nearestRank_le unitsPerOne_pos second
  rcases ofRatio_cases false (magnitude b * magnitude b) unitsPerOne with
    ⟨inRange, number⟩ | ⟨beyond, _⟩
  · rw [← finite_mul_self t b] at number
    rw [squaredLength_eq, number, mulAdd_self_finite]
    refine ofRatio_isFinite_of_le unitsPerOne_pos (by decide : 2046 * binade < finiteCount) ?_
    rw [← sum]
    exact Nat.add_le_add first (Nat.mul_le_mul_right _ (magnitude_le_iff.mpr rank))
  · exact absurd (Nat.le_trans beyond rank) (by decide)

/-- Divisors of no extreme size: the square of a part is more than half a unit, and no part is
beyond `2 ^ 511`. -/
structure Moderate (w : Value) : Prop where
  large : unitsPerOne < 2 * (w.re.size * w.re.size) ∨ unitsPerOne < 2 * (w.im.size * w.im.size)
  re : 2 * w.re.size ≤ squareLimit
  im : 2 * w.im.size ≤ squareLimit

theorem Moderate.not_indeterminate (moderate : w.Moderate) (finite : w.isFinite = true)
    (x : Binary64) : ¬Indeterminate x w.squaredLength := by
  rintro (⟨-, zero⟩ | ⟨-, infinite⟩)
  · obtain ⟨re, im⟩ := (squaredLength_isZero_iff finite).mp zero
    rcases moderate.large with large | large
    · exact Nat.not_lt.mpr re large
    · exact Nat.not_lt.mpr im large
  · rw [squaredLength_isFinite_of_le finite moderate.re moderate.im] at infinite
    cases infinite

theorem div_eq_nan_iff (finite : z.isFinite = true) (finite' : w.isFinite = true)
    (other : w.isReal = false) :
    ((z / w).re = nan ↔ Indeterminate (z.mulConjugate w).re w.squaredLength) ∧
      ((z / w).im = nan ↔ Indeterminate (z.mulConjugate w).im w.squaredLength) := by
  obtain ⟨re, im⟩ := mulConjugate_ne_nan finite finite'
  have length := squaredLength_ne_nan finite'
  rw [div_of_not_real z other]
  exact ⟨Binary64.div_eq_nan_iff re length, Binary64.div_eq_nan_iff im length⟩

theorem div_ne_nan_of_real (finite : z.isFinite = true) (finite' : w.isFinite = true)
    (real : w.isReal = true) (nonzero : w.re.isZero = false) :
    (z / w).re ≠ nan ∧ (z / w).im ≠ nan := by
  obtain ⟨re, im⟩ := Bool.and_eq_true_iff.mp finite
  obtain ⟨re', -⟩ := Bool.and_eq_true_iff.mp finite'
  have determinate (x : Binary64) : ¬Indeterminate x w.re := by
    rintro (⟨-, zero⟩ | ⟨-, infinite⟩)
    · rw [nonzero] at zero
      cases zero
    · cases infinite.symm.trans re'
  rw [div_of_real z real]
  exact ⟨fun undefined => determinate _
      ((Binary64.div_eq_nan_iff (ne_nan_of_finite re) (ne_nan_of_finite re')).mp undefined),
    fun undefined => determinate _
      ((Binary64.div_eq_nan_iff (ne_nan_of_finite im) (ne_nan_of_finite re')).mp undefined)⟩

end Complex

/-- A quotient of finite values by a value that is not zero is never refused. A real divisor is not
zero in its real part, which divides both parts, and none of them is undefined. Any other divisor
divides by its squared length, which is zero if and only if both parts have squares of half a unit
at most; a part of the quotient is undefined if and only if this squared length and what it divides
are both zero or both infinite, and never for divisors of a moderate size. -/
theorem Operator.div_outcome {left right : Value} (finite : left.isFinite = true)
    (finite' : right.isFinite = true) (nonzero : right.isZero = false) (position : Nat) :
    Operator.div.apply left right position = .ok (left / right) ∧
    (right.isReal = true →
      right.re.isZero = false ∧ (left / right).re ≠ .nan ∧ (left / right).im ≠ .nan) ∧
    (right.isReal = false →
      (right.squaredLength.isZero = true ↔
        2 * (right.re.size * right.re.size) ≤ Binary64.unitsPerOne ∧
          2 * (right.im.size * right.im.size) ≤ Binary64.unitsPerOne) ∧
      ((left / right).re = .nan ↔
        Binary64.Indeterminate (left.mulConjugate right).re right.squaredLength) ∧
      ((left / right).im = .nan ↔
        Binary64.Indeterminate (left.mulConjugate right).im right.squaredLength) ∧
      (right.Moderate → (left / right).re ≠ .nan ∧ (left / right).im ≠ .nan)) := by
  refine ⟨?_, fun real => ?_, fun other => ?_⟩
  · rw [apply, nonzero, if_neg Bool.false_ne_true]
  · have re : right.re.isZero = false := by
      rcases Bool.and_eq_false_iff.mp nonzero with re | im
      · exact re
      · rw [Complex.isReal, im] at real
        cases real
    exact ⟨re, Complex.div_ne_nan_of_real finite finite' real re⟩
  · obtain ⟨re, im⟩ := Complex.div_eq_nan_iff finite finite' other
    refine ⟨Complex.squaredLength_isZero_iff finite', re, im, fun moderate => ?_⟩
    exact ⟨fun undefined => moderate.not_indeterminate finite' _ (re.mp undefined),
      fun undefined => moderate.not_indeterminate finite' _ (im.mp undefined)⟩

/-- One by `1e-200i` is undefined because the squared length of the divisor is rounded to zero, and
`1e200 + 1e200i` by itself because there it is infinite. -/
theorem Operator.div_undefined_of_extreme_divisor :
    (∃ left right quotient : Value, left.isFinite = true ∧ right.isFinite = true ∧
      right.isZero = false ∧ right.squaredLength.isZero = true ∧
      Operator.div.apply left right 1 = .ok quotient ∧ quotient.re = .nan) ∧
    ∃ left right quotient : Value, left.isFinite = true ∧ right.isFinite = true ∧
      right.isZero = false ∧ right.squaredLength.isFinite = false ∧
      Operator.div.apply left right 1 = .ok quotient ∧ quotient.re = .nan ∧ quotient.im = .nan := by
  let tiny : Value := ⟨.zero false, Decimal.toBinary64 false ⟨1, -200⟩⟩
  let huge : Value := ⟨Decimal.toBinary64 false ⟨1, 200⟩, Decimal.toBinary64 false ⟨1, 200⟩⟩
  refine ⟨⟨Complex.one, tiny, ⟨.nan, .infinite true⟩, ?_⟩, huge, huge, ⟨.nan, .nan⟩, ?_⟩ <;>
    decide +kernel

theorem Operator.div_outcome_edges :
    (∃ right : Value, right.isFinite = true ∧ right.isZero = false ∧ right.isReal = false ∧
      (Complex.one / right).re ≠ .nan ∧ (Complex.one / right).im ≠ .nan) ∧
    ∃ right : Value, right.isFinite = true ∧ right.isZero = false ∧ right.isReal = false ∧
      (Complex.one / right).re = .nan ∧ (Complex.one / right).im ≠ .nan := by
  let plain : Value := ⟨Decimal.toBinary64 false ⟨3, 0⟩, Decimal.toBinary64 false ⟨4, 0⟩⟩
  let tiny : Value := ⟨.zero false, Decimal.toBinary64 false ⟨1, -200⟩⟩
  have evaluated : (plain.isFinite = true ∧ plain.isZero = false ∧ plain.isReal = false ∧
      Binary64.unitsPerOne < 2 * (plain.re.size * plain.re.size) ∧
      2 * plain.re.size ≤ Binary64.squareLimit ∧ 2 * plain.im.size ≤ Binary64.squareLimit) ∧
      (tiny.isFinite = true ∧ tiny.isZero = false ∧ tiny.isReal = false) ∧
      (Complex.mulConjugate Complex.one tiny).re.isZero = true ∧
      (Complex.mulConjugate Complex.one tiny).im.isZero = false ∧
      tiny.squaredLength.isZero = true := by decide +kernel
  obtain ⟨⟨finite, nonzero, other, large, re, im⟩, ⟨finite', nonzero', other'⟩,
    part, part', length⟩ := evaluated
  have one : (Complex.one : Value).isFinite = true := rfl
  have outcome := (Operator.div_outcome one finite nonzero 0).2.2 other
  have outcome' := (Operator.div_outcome one finite' nonzero' 0).2.2 other'
  refine ⟨⟨plain, finite, nonzero, other, outcome.2.2.2 ⟨.inl large, re, im⟩⟩, tiny, finite',
    nonzero', other', outcome'.2.1.mpr (.inl ⟨part, length⟩), fun undefined => ?_⟩
  rcases outcome'.2.2.1.mp undefined with ⟨zero, -⟩ | ⟨-, infinite⟩
  · cases part'.symm.trans zero
  · obtain ⟨negative, zero⟩ := Binary64.isZero_iff.mp length
    rw [zero] at infinite
    cases infinite

end DiagramScript
