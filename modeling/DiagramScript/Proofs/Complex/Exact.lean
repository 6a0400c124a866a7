import DiagramScript.Proofs.Complex.Power
import Mathlib.Data.Complex.Basic

/-! Complex arithmetic without rounding. Over rational scalars the operations are those of the field
of complex numbers, so repeated squaring gives the power itself, whatever the exponent
(`powInt?_exact`). -/
namespace DiagramScript

structure Exact where
  rational : ℚ

namespace Exact

instance : Scalar Exact where
  add x y := ⟨x.rational + y.rational⟩
  neg x := ⟨-x.rational⟩
  mul x y := ⟨x.rational * y.rational⟩
  div x y := ⟨x.rational / y.rational⟩
  zero := ⟨0⟩
  one := ⟨1⟩
  mulAdd x y z := ⟨x.rational * y.rational + z.rational⟩
  isZero x := decide (x.rational = 0)
  isFinite _ := true

instance : Scalar.Strict Exact where
  finite_of_neg _ := rfl
  finite_of_mul _ := ⟨rfl, rfl⟩
  finite_of_mulAdd _ := ⟨rfl, rfl, rfl⟩
  finite_of_div _ := rfl

def real (x : Exact) : ℝ := x.rational

variable (x y z : Exact)

theorem real_add : real (x + y) = real x + real y := Rat.cast_add x.rational y.rational

theorem real_neg : real (-x) = -real x := Rat.cast_neg x.rational

theorem real_mul : real (x * y) = real x * real y := Rat.cast_mul x.rational y.rational

theorem real_div : real (x / y) = real x / real y := Rat.cast_div x.rational y.rational

theorem real_mulAdd : real (Scalar.mulAdd x y z) = real x * real y + real z := by
  rw [← real_mul]
  exact real_add (x * y) z

theorem real_zero : real Scalar.zero = 0 := Rat.cast_zero

theorem real_one : real Scalar.one = 1 := Rat.cast_one

theorem real_injective : Function.Injective real := by
  rintro ⟨x⟩ ⟨y⟩ same
  exact congrArg mk (Rat.cast_injective same)

theorem isZero_iff : Scalar.isZero x = true ↔ real x = 0 :=
  decide_eq_true_iff.trans Rat.cast_eq_zero.symm

end Exact

namespace Complex

def value (z : Complex Exact) : ℂ := ⟨z.re.real, z.im.real⟩

variable (z w : Complex Exact)

theorem value_one : value one = 1 := by
  apply Complex.ext
  · exact Exact.real_one
  · exact Exact.real_zero

theorem value_mul : value (z * w) = value z * value w := by
  apply Complex.ext
  · rw [Complex.mul_re, sub_eq_add_neg]
    exact (Exact.real_mulAdd _ _ _).trans (by rw [Exact.real_neg, Exact.real_mul]; rfl)
  · rw [Complex.mul_im]
    exact (Exact.real_mulAdd _ _ _).trans (by rw [Exact.real_mul]; rfl)

theorem real_square : (z.re * z.re + z.im * z.im).real = Complex.normSq (value z) := by
  rw [Exact.real_add, Exact.real_mul, Exact.real_mul, Complex.normSq_apply]
  rfl

theorem value_recip : value z.recip = (value z)⁻¹ := by
  apply Complex.ext
  · rw [Complex.inv_re, ← real_square]
    exact Exact.real_div _ _
  · rw [Complex.inv_im, ← real_square, neg_div]
    exact (Exact.real_neg _).trans (congrArg Neg.neg (Exact.real_div _ _))

theorem value_injective : Function.Injective value := by
  rintro ⟨re, im⟩ ⟨re', im'⟩ same
  obtain ⟨first, second⟩ := Complex.ext_iff.mp same
  exact congrArg₂ mk (Exact.real_injective first) (Exact.real_injective second)

theorem isZero_iff : z.isZero = true ↔ value z = 0 := by
  rw [isZero, Bool.and_eq_true_iff, Exact.isZero_iff, Exact.isZero_iff, Complex.ext_iff]
  rfl

/-- What a round takes from the power that is still to come, it puts into the result. -/
theorem value_round (result base : Complex Exact) (n : Nat) :
    value (round (n % 2 = 1) (n / 2 = 0) result base).1 *
        value (round (n % 2 = 1) (n / 2 = 0) result base).2 ^ (n / 2) =
      value result * value base ^ n := by
  have first : value (round (n % 2 = 1) (n / 2 = 0) result base).1 =
      value result * value base ^ (n % 2) := by
    rcases Nat.mod_two_eq_zero_or_one n with even | odd
    · simp [round, even]
    · simp [round, odd, value_mul]
  have second : value (round (n % 2 = 1) (n / 2 = 0) result base).2 ^ (n / 2) =
      value base ^ (2 * (n / 2)) := by
    by_cases last : n / 2 = 0
    · rw [last, pow_zero, Nat.mul_zero, pow_zero]
    · simp only [round, last, decide_false, Bool.false_eq_true, ↓reduceIte]
      rw [value_mul, ← pow_two, ← pow_mul]
  rw [first, second, mul_assoc, ← pow_add, Nat.mod_add_div]

theorem value_powerUnchecked (result base : Complex Exact) (n : Nat) :
    value (powerUnchecked result base n) = value result * value base ^ n := by
  induction n using Nat.strongRecOn generalizing result base with
  | _ n ih =>
    rw [powerUnchecked]
    split
    · rename_i ended
      rw [ended, pow_zero, mul_one]
    · rename_i more
      exact (ih (n / 2) (by omega) _ _).trans (value_round result base n)

theorem powerFrom_exact (result base : Complex Exact) (n : Nat) :
    ∃ power, powerFrom result base n = some power ∧
      value power = value result * value base ^ n := by
  rcases powerFrom_cases result base n with power | ⟨-, broken⟩
  · exact ⟨_, power, value_powerUnchecked result base n⟩
  · cases broken

theorem powInt?_cases (z : Complex Exact) (exponent : Int) :
    (value z = 0 ∧ exponent < 0) ∧ z.powInt? exponent = none ∨
      ¬(value z = 0 ∧ exponent < 0) ∧
        ∃ power, z.powInt? exponent = some power ∧ value power = value z ^ exponent := by
  unfold powInt?
  split
  · rename_i none
    refine .inr ⟨by omega, one, rfl, ?_⟩
    rw [none, zpow_zero, value_one]
  · split
    · rename_i undefined
      exact .inl ⟨undefined.imp_left (isZero_iff z).mp, rfl⟩
    · rename_i defined
      obtain ⟨power, loop, exact⟩ := powerFrom_exact one z exponent.natAbs
      rw [value_one, one_mul] at exact
      refine .inr ⟨fun undefined => defined (undefined.imp_left (isZero_iff z).mpr), ?_⟩
      rw [loop]
      refine ⟨_, rfl, ?_⟩
      split
      · rename_i negative
        have size : exponent = -(exponent.natAbs : Int) := by omega
        rw [value_recip, exact, size, Int.natAbs_neg, Int.natAbs_natCast, zpow_neg, zpow_natCast]
      · rename_i positive
        have size : exponent = (exponent.natAbs : Int) := by omega
        rw [exact, size, Int.natAbs_natCast, zpow_natCast]

/-- An integer power without rounding is the power, and it is missing only where zero would have to
be divided by. For every exponent in a signed word, the least one included, its size is a word, and
the loop over that word is done after 64 rounds at most, with the same answer. -/
theorem powInt?_exact (z : Complex Exact) :
    (∀ exponent : Int, z.powInt? exponent = none ↔ value z = 0 ∧ exponent < 0) ∧
      (∀ (exponent : Int) (power : Complex Exact), z.powInt? exponent = some power ↔
        ¬(value z = 0 ∧ exponent < 0) ∧ value power = value z ^ exponent) ∧
      ∀ exponent : Int64, (wordSize exponent).toNat = exponent.toInt.natAbs ∧
        z.powWord? exponent = some (z.powInt? exponent.toInt) := by
  refine ⟨fun exponent => ?_, fun exponent power => ?_, fun exponent => ?_⟩
  · rcases powInt?_cases z exponent with ⟨undefined, none⟩ | ⟨defined, power, some, -⟩
    · exact ⟨fun _ => undefined, fun _ => none⟩
    · rw [some]
      exact ⟨fun none => absurd none (Option.some_ne_none power),
        fun undefined => absurd undefined defined⟩
  · rcases powInt?_cases z exponent with ⟨undefined, none⟩ | ⟨defined, power', some, exact⟩
    · rw [none]
      exact ⟨fun some => absurd some.symm (Option.some_ne_none power),
        fun given => absurd undefined given.1⟩
    · rw [some, Option.some.injEq]
      constructor
      · rintro rfl
        exact ⟨defined, exact⟩
      · rintro ⟨-, exact'⟩
        exact value_injective (exact.trans exact'.symm)
  · exact ⟨toNat_wordSize exponent, powWord?_eq z exponent⟩

end Complex
end DiagramScript
