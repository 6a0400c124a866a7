import DiagramScript.Expression.Power
import DiagramScript.Proofs.Complex.Power
import DiagramScript.Proofs.Number.Zero

/-! What powers of values come to. Each of the four ways to a power gives a finite value or none,
and one error stands for all bases of a kind; zero has the same powers through the loop for whole
exponents and past it (`evalPower_outcome`). -/
namespace DiagramScript

namespace Complex

variable {z w : Complex Binary64}

theorem exists_zeros (none : z.isZero = true) :
    ∃ s t, z = ⟨Binary64.zero s, Binary64.zero t⟩ := by
  obtain ⟨re, im⟩ := Bool.and_eq_true_iff.mp none
  obtain ⟨s, real⟩ := Binary64.isZero_iff.mp re
  obtain ⟨t, imaginary⟩ := Binary64.isZero_iff.mp im
  exact ⟨s, t, congrArg₂ mk real imaginary⟩

theorem exists_parts (finite : z.isFinite = true) : ∃ s a t b, z = ⟨.finite s a, .finite t b⟩ := by
  obtain ⟨re, im⟩ := Bool.and_eq_true_iff.mp finite
  obtain ⟨s, a, real⟩ := Binary64.isFinite_iff.mp re
  obtain ⟨t, b, imaginary⟩ := Binary64.isFinite_iff.mp im
  exact ⟨s, a, t, b, congrArg₂ mk real imaginary⟩

theorem finite_of_zero (none : z.isZero = true) : z.isFinite = true := by
  obtain ⟨s, t, rfl⟩ := exists_zeros none
  rfl

theorem mul_isZero (finite : z.isFinite = true) (none : w.isZero = true) :
    (z * w).isZero = true := by
  obtain ⟨s, a, t, b, rfl⟩ := exists_parts finite
  obtain ⟨s', t', rfl⟩ := exists_zeros none
  refine Bool.and_eq_true_iff.mpr ⟨Binary64.isZero_iff.mpr ?_, Binary64.isZero_iff.mpr ?_⟩
  · change ∃ r, Binary64.mulAdd (.finite s a) (.zero s')
      (Binary64.neg (Binary64.mul (.finite t b) (.zero t'))) = .zero r
    rw [Binary64.finite_mul_zero]
    exact ⟨_, Binary64.finite_mulAdd_zero s s' _ a⟩
  · change ∃ r, Binary64.mulAdd (.finite s a) (.zero t')
      (Binary64.mul (.finite t b) (.zero s')) = .zero r
    rw [Binary64.finite_mul_zero]
    exact ⟨_, Binary64.finite_mulAdd_zero s t' _ a⟩

theorem powerUnchecked_isZero {result base : Complex Binary64} {n : Nat}
    (finite : result.isFinite = true) (none : base.isZero = true) (more : n ≠ 0) :
    (powerUnchecked result base n).isZero = true := by
  induction n using Nat.strongRecOn generalizing result base with
  | _ n ih =>
    have product := mul_isZero finite none
    rw [powerUnchecked, if_neg more]
    by_cases last : n / 2 = 0
    · have only : n = 1 := by omega
      rw [last, powerUnchecked, if_pos rfl, only]
      exact product
    · refine ih (n / 2) (by omega) ?_ ?_ last
      · rcases Nat.mod_two_eq_zero_or_one n with even | odd
        · simpa only [round, even, Nat.zero_ne_one, decide_false, Bool.false_eq_true, ↓reduceIte]
        · simpa only [round, odd, decide_true, ↓reduceIte] using finite_of_zero product
      · simpa only [round, last, decide_false, Bool.false_eq_true, ↓reduceIte] using
          mul_isZero (finite_of_zero none) none

theorem powInt?_of_zero {exponent : Int} (none : z.isZero = true) (positive : 0 < exponent) :
    ∃ power, z.powInt? exponent = some power ∧ power.isZero = true := by
  have power : (powerUnchecked one z exponent.natAbs).isZero = true :=
    powerUnchecked_isZero rfl none (by omega)
  refine ⟨_, ?_, power⟩
  rcases powerFrom_cases one z exponent.natAbs with loop | ⟨-, broken⟩
  · rw [powInt?, if_neg (by omega), if_neg (by omega), loop, Option.bind_eq_bind, Option.bind_some,
      if_neg (by omega), finite?, if_pos (finite_of_zero power)]
  · rw [finite_of_zero power] at broken
    cases broken

theorem finite_of_finite? (checked : finite? z = some w) : w.isFinite = true := by
  rcases finite?_cases z with ⟨finite, kept⟩ | ⟨-, left⟩
  · rw [kept] at checked
    cases checked
    exact finite
  · rw [left] at checked
    cases checked

theorem finite_of_powInt? {exponent : Int} {power : Complex Binary64}
    (some : z.powInt? exponent = some power) : power.isFinite = true := by
  unfold powInt? at some
  split at some
  · cases some
    rfl
  · split at some
    · cases some
    · obtain ⟨_, -, checked⟩ := Option.bind_eq_some_iff.mp some
      exact finite_of_finite? checked

end Complex

theorem Binary64.place?_of_toSafeInteger? {x : Binary64} {n : Int}
    (whole : x.toSafeInteger? = some n) : x.place? = some (n * unitsPerOne) := by
  cases x with
  | finite negative rank =>
    simp only [toSafeInteger?] at whole
    split at whole
    · rename_i exact
      cases whole
      have units : magnitude rank / unitsPerOne * unitsPerOne = magnitude rank :=
        Nat.div_mul_cancel (Nat.dvd_of_mod_eq_zero exact.1)
      have units' : ((magnitude rank / unitsPerOne : Nat) : Int) * unitsPerOne =
          magnitude rank := by
        exact_mod_cast units
      cases negative <;>
        simp only [place?, signed, Bool.false_eq_true, ↓reduceIte, Int.neg_mul, units']
    · cases whole
  | infinite => cases whole
  | nan => cases whole

theorem wholeExponent?_of_zero {exponent : Value} (none : exponent.isZero = true) :
    wholeExponent? exponent = some 0 := by
  obtain ⟨s, t, rfl⟩ := Complex.exists_zeros none
  cases s <;> rfl

theorem powerError_cases (base : Value) (position : Nat) :
    base.isZero = true ∧ powerError base position = .divisionByZero position ∨
      base.isZero = false ∧ powerError base position = .overflow position := by
  cases zero : base.isZero with
  | true => exact .inl ⟨rfl, by rw [powerError, if_pos zero]⟩
  | false => exact .inr ⟨rfl, by rw [powerError, zero, if_neg Bool.false_ne_true]⟩

theorem isReal_of_wholeExponent? {exponent : Value} {n : Int}
    (whole : wholeExponent? exponent = some n) :
    exponent.im.isZero = true ∧ exponent.re.place? = some (n * Binary64.unitsPerOne) := by
  unfold wholeExponent? at whole
  split at whole
  · rename_i real
    exact ⟨real, Binary64.place?_of_toSafeInteger? whole⟩
  · cases whole

theorem evalPower_of_whole {exponent : Value} {n : Int} (whole : wholeExponent? exponent = some n)
    (base : Value) (position : Nat) :
    (∀ power, base.powInt? n = some power → evalPower base exponent position = .ok power) ∧
      (base.powInt? n = none →
        evalPower base exponent position = .error (powerError base position)) := by
  constructor
  · intro power found
    simp only [evalPower, whole, found]
  · intro missing
    simp only [evalPower, whole, missing]

section ZeroBase

variable {base : Value} (zero : base.isZero = true) (exponent : Value) (position : Nat)

include zero

theorem evalPower_of_zero_whole {n : Int} (whole : wholeExponent? exponent = some n) :
    n < 0 ∧ evalPower base exponent position = .error (.divisionByZero position) ∨
      n = 0 ∧ evalPower base exponent position = .ok Complex.one ∨
      0 < n ∧ ∃ power, evalPower base exponent position = .ok power ∧ power.isZero = true := by
  obtain ⟨given, refused⟩ := evalPower_of_whole whole base position
  rcases Int.lt_trichotomy n 0 with negative | rfl | positive
  · have missing : base.powInt? n = none := by
      rw [Complex.powInt?, if_neg (by omega), if_pos ⟨zero, negative⟩]
    exact .inl ⟨negative, by rw [refused missing, powerError, if_pos zero]⟩
  · exact .inr (.inl ⟨rfl, given Complex.one rfl⟩)
  · obtain ⟨power, found, zero'⟩ := Complex.powInt?_of_zero zero positive
    exact .inr (.inr ⟨positive, power, given power found, zero'⟩)

theorem evalPower_of_zero :
    exponent.isZero = true ∧ evalPower base exponent position = .ok Complex.one ∨
      exponent.re.isPositive = true ∧
        (∃ power, evalPower base exponent position = .ok power ∧ power.isZero = true) ∨
      (exponent.isZero = false ∧ exponent.re.isPositive = false) ∧
        evalPower base exponent position = .error (.divisionByZero position) := by
  cases whole : wholeExponent? exponent with
  | some n =>
    obtain ⟨real, place⟩ := isReal_of_wholeExponent? whole
    have unit : (0 : Int) < Binary64.unitsPerOne := by exact_mod_cast Binary64.unitsPerOne_pos
    rcases evalPower_of_zero_whole zero exponent position whole with
      ⟨negative, failed⟩ | ⟨rfl, one⟩ | ⟨positive, power⟩
    · have below : n * Binary64.unitsPerOne < 0 := Int.mul_neg_of_neg_of_pos negative unit
      obtain ⟨other, nonpositive⟩ := Binary64.neither_of_negative place below
      exact .inr (.inr ⟨⟨Bool.and_eq_false_iff.mpr (.inl other), nonpositive⟩, failed⟩)
    · rw [Int.zero_mul] at place
      exact .inl ⟨Bool.and_eq_true_iff.mpr ⟨Binary64.isZero_iff_place?.mpr place, real⟩, one⟩
    · exact .inr (.inl ⟨Binary64.isPositive_iff_place?.mpr ⟨_, place, Int.mul_pos positive unit⟩,
        power⟩)
  | none =>
    have other : exponent.isZero = false := by
      rw [← Bool.not_eq_true]
      intro none
      rw [wholeExponent?_of_zero none] at whole
      cases whole
    rw [evalPower, whole]
    simp only [if_pos zero]
    cases positive : exponent.re.isPositive with
    | true => exact .inr (.inl ⟨rfl, Complex.zero, rfl, rfl⟩)
    | false => exact .inr (.inr ⟨⟨other, rfl⟩, by rw [powerError, if_pos zero]; rfl⟩)

end ZeroBase

theorem finite_of_evalPower {base exponent power : Value} {position : Nat}
    (evaluated : evalPower base exponent position = .ok power) : power.isFinite = true := by
  unfold evalPower at evaluated
  split at evaluated
  · split at evaluated
    · rename_i found
      cases evaluated
      exact Complex.finite_of_powInt? found
    · cases evaluated
  · split at evaluated
    · split at evaluated
      · cases evaluated
        rfl
      · cases evaluated
    · dsimp only at evaluated
      split at evaluated
      · rename_i finite
        cases evaluated
        exact finite
      · cases evaluated

theorem powerError_of_evalPower {base exponent : Value} {position : Nat} {cause : ExpressionError}
    (failed : evalPower base exponent position = .error cause) :
    cause = powerError base position := by
  unfold evalPower at failed
  split at failed
  · split at failed <;> cases failed
    rfl
  · split at failed
    · split at failed <;> cases failed
      rfl
    · dsimp only at failed
      split at failed <;> cases failed
      rfl

/-- A power is finite or an error of its position, which tells a zero base from all others. Zero to
the power zero is one, to an exponent with a positive real part it is zero, and it has no other
powers. -/
theorem evalPower_outcome (base exponent : Value) (position : Nat) :
    (∀ power, evalPower base exponent position = .ok power →
      power.re.isFinite = true ∧ power.im.isFinite = true) ∧
    (∀ cause, evalPower base exponent position = .error cause →
      base.isZero = true ∧ cause = .divisionByZero position ∨
        base.isZero = false ∧ cause = .overflow position) ∧
    (base.isZero = true →
      (exponent.isZero = true → evalPower base exponent position = .ok Complex.one) ∧
      (exponent.re.isPositive = true →
        ∃ power, evalPower base exponent position = .ok power ∧ power.isZero = true) ∧
      (exponent.isZero = false → exponent.re.isPositive = false →
        evalPower base exponent position = .error (.divisionByZero position))) := by
  refine ⟨?_, ?_, ?_⟩
  · intro power evaluated
    exact Bool.and_eq_true_iff.mp (finite_of_evalPower evaluated)
  · intro cause failed
    rw [powerError_of_evalPower failed]
    exact powerError_cases base position
  · intro zero
    rcases evalPower_of_zero zero exponent position with
      ⟨none, one⟩ | ⟨positive, power⟩ | ⟨⟨other, nonpositive⟩, failed⟩
    · have nonpositive := Binary64.isPositive_of_isZero (Bool.and_eq_true_iff.mp none).1
      exact ⟨fun _ => one, fun positive => by simp [nonpositive] at positive,
        fun other => by simp [none] at other⟩
    · have other : ¬exponent.isZero = true := by
        intro none
        have nonpositive := Binary64.isPositive_of_isZero (Bool.and_eq_true_iff.mp none).1
        simp [positive] at nonpositive
      exact ⟨fun none => absurd none other, fun _ => power,
        fun _ nonpositive => by simp [positive] at nonpositive⟩
    · exact ⟨fun none => by simp [other] at none, fun positive => by simp [nonpositive] at positive,
        fun _ _ => failed⟩

theorem evalPower_outcome_edges :
    (∃ power, evalPower Complex.i (Complex.ofReal .one) 0 = .ok power ∧
      power.re.isFinite = true ∧ power.im.isFinite = true) ∧
    (∃ cause, evalPower ⟨.infinite false, .nan⟩ (Complex.ofReal .one) 7 = .error cause ∧
      cause = .overflow 7) ∧
    evalPower Complex.zero ⟨.finite true ⟨1022 * Binary64.binade, by decide⟩, .zero true⟩ 3 =
      .error (.divisionByZero 3) ∧
    ∃ power, evalPower Complex.zero ⟨.one, .nan⟩ 3 = .ok power ∧ power.isZero = true := by
  have evaluated : evalPower Complex.i (Complex.ofReal .one) 0 = .ok ⟨.zero false, .one⟩ ∧
      evalPower ⟨.infinite false, .nan⟩ (Complex.ofReal .one) 7 = .error (.overflow 7) := by
    decide +kernel
  refine ⟨⟨_, evaluated.1, (evalPower_outcome _ _ _).1 _ evaluated.1⟩,
    ⟨_, evaluated.2, ?_⟩, ?_, ?_⟩
  · rcases (evalPower_outcome _ _ _).2.1 _ evaluated.2 with ⟨zero, -⟩ | ⟨-, overflow⟩
    · cases zero
    · exact overflow
  · exact ((evalPower_outcome _ _ _).2.2 rfl).2.2 rfl (by decide +kernel)
  · exact ((evalPower_outcome _ _ _).2.2 rfl).2.1 (by decide +kernel)

end DiagramScript
