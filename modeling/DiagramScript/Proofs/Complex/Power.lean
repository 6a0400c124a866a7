import DiagramScript.Complex.Power
import DiagramScript.Proofs.Number.Finiteness
import Mathlib.Algebra.Group.Nat.Defs

/-! The loop of an integer power. Leaving early where a factor stops being finite changes no answer,
because nothing makes such a factor finite again (`powInt?_eq_powUnchecked?`), and a counter in a
machine word does not change the power either (`powWord?_eq`): the size of every signed word is a
word without a sign, and 64 rounds are enough for its digits. -/
namespace DiagramScript.Complex

variable {α : Type} [Scalar α] {z w result base : Complex α} {n : Nat}

theorem finite?_cases (z : Complex α) :
    z.isFinite = true ∧ finite? z = some z ∨ z.isFinite = false ∧ finite? z = none := by
  cases finite : z.isFinite with
  | true => exact .inl ⟨rfl, by rw [finite?, if_pos finite]⟩
  | false => exact .inr ⟨rfl, by rw [finite?, finite, if_neg Bool.false_ne_true]⟩

def round (odd last : Bool) (result base : Complex α) : Complex α × Complex α :=
  (if odd then result * base else result, if last then base else base * base)

def round? (odd last : Bool) (result base : Complex α) : Option (Complex α × Complex α) := do
  let result ← if odd then finite? (result * base) else some result
  let base ← if last then some base else finite? (base * base)
  some (result, base)

theorem round?_cases (odd last : Bool) (result base : Complex α) :
    round? odd last result base = some (round odd last result base) ∨
      round? odd last result base = none ∧
        ((round odd last result base).1.isFinite = false ∨
          last = false ∧ (round odd last result base).2.isFinite = false) := by
  cases odd with
  | false =>
    cases last with
    | true => exact .inl rfl
    | false =>
      rcases finite?_cases (base * base) with ⟨-, kept⟩ | ⟨broken, left⟩
      · exact .inl (by simp [round?, round, kept])
      · exact .inr ⟨by simp [round?, left], .inr ⟨rfl, broken⟩⟩
  | true =>
    rcases finite?_cases (result * base) with ⟨-, kept⟩ | ⟨broken, left⟩
    · cases last with
      | true => exact .inl (by simp [round?, round, kept])
      | false =>
        rcases finite?_cases (base * base) with ⟨-, kept'⟩ | ⟨broken, left⟩
        · exact .inl (by simp [round?, round, kept, kept'])
        · exact .inr ⟨by simp [round?, kept, left], .inr ⟨rfl, broken⟩⟩
    · exact .inr ⟨by simp [round?, left], .inl broken⟩

theorem powerFrom_zero (result base : Complex α) : powerFrom result base 0 = some result := by
  rw [powerFrom, if_pos rfl]

theorem powerFrom_round (more : n ≠ 0) : powerFrom result base n =
    (round? (n % 2 = 1) (n / 2 = 0) result base).bind fun next =>
      powerFrom next.1 next.2 (n / 2) := by
  rw [powerFrom, if_neg more, round?]
  by_cases odd : n % 2 = 1 <;> by_cases last : n / 2 = 0 <;>
    simp only [odd, last, ↓reduceIte, decide_true, decide_false, Bool.false_eq_true,
      Option.bind_eq_bind, Option.bind_some, Option.bind_assoc]

/-- The loop run to its end, whatever becomes of its factors. -/
def powerUnchecked (result base : Complex α) (n : Nat) : Complex α :=
  if n = 0 then result
  else
    let next := round (n % 2 = 1) (n / 2 = 0) result base
    powerUnchecked next.1 next.2 (n / 2)
termination_by n
decreasing_by omega

def powUnchecked? (z : Complex α) (exponent : Int) : Option (Complex α) :=
  if exponent = 0 then some one
  else if z.isZero ∧ exponent < 0 then none
  else
    let power := powerUnchecked one z exponent.natAbs
    finite? (if exponent < 0 then power.recip else power)

section Strict

variable [Scalar.Strict α]

theorem finite_of_mul (finite : (z * w).isFinite = true) :
    z.isFinite = true ∧ w.isFinite = true := by
  obtain ⟨real, -⟩ := Bool.and_eq_true_iff.mp finite
  obtain ⟨re, re', rest⟩ := Scalar.Strict.finite_of_mulAdd real
  obtain ⟨im, im'⟩ := Scalar.Strict.finite_of_mul (Scalar.Strict.finite_of_neg rest)
  exact ⟨Bool.and_eq_true_iff.mpr ⟨re, im⟩, Bool.and_eq_true_iff.mpr ⟨re', im'⟩⟩

theorem finite_of_recip (finite : z.recip.isFinite = true) : z.isFinite = true := by
  obtain ⟨real, imaginary⟩ := Bool.and_eq_true_iff.mp finite
  exact Bool.and_eq_true_iff.mpr ⟨Scalar.Strict.finite_of_div real,
    Scalar.Strict.finite_of_div (Scalar.Strict.finite_of_neg imaginary)⟩

theorem finite_of_powerUnchecked (finite : (powerUnchecked result base n).isFinite = true) :
    result.isFinite = true ∧ (n ≠ 0 → base.isFinite = true) := by
  induction n using Nat.strongRecOn generalizing result base with
  | _ n ih =>
    rw [powerUnchecked] at finite
    split at finite
    · rename_i ended
      exact ⟨finite, fun more => absurd ended more⟩
    · rename_i more
      obtain ⟨first, second⟩ := ih (n / 2) (by omega) finite
      by_cases odd : n % 2 = 1
      · simp only [round, odd, decide_true, ↓reduceIte] at first
        obtain ⟨finite, finite'⟩ := finite_of_mul first
        exact ⟨finite, fun _ => finite'⟩
      · have further : n / 2 ≠ 0 := by omega
        have square := second further
        simp only [round, odd, further, decide_false, Bool.false_eq_true, ↓reduceIte]
          at first square
        exact ⟨first, fun _ => (finite_of_mul square).1⟩

theorem powerFrom_cases (result base : Complex α) (n : Nat) :
    powerFrom result base n = some (powerUnchecked result base n) ∨
      powerFrom result base n = none ∧ (powerUnchecked result base n).isFinite = false := by
  induction n using Nat.strongRecOn generalizing result base with
  | _ n ih =>
    rw [powerUnchecked]
    split
    · rename_i ended
      exact .inl (by rw [ended, powerFrom_zero])
    · rename_i more
      rw [powerFrom_round more]
      rcases round?_cases (n % 2 = 1) (n / 2 = 0) result base with kept | ⟨left, broken⟩
      · rw [kept]
        exact ih (n / 2) (by omega) _ _
      · refine .inr ⟨by rw [left]; rfl, ?_⟩
        -- The broken factor goes into the power that the other loop gives.
        rw [← Bool.not_eq_true]
        intro finite
        obtain ⟨first, second⟩ := finite_of_powerUnchecked finite
        rcases broken with broken | ⟨further, broken⟩
        · rw [first] at broken
          cases broken
        · rw [second (by simpa using further)] at broken
          cases broken

end Strict

/-- To leave the loop where a factor is not finite gives what the whole loop gives. -/
theorem powInt?_eq_powUnchecked? (z : Complex Binary64) (exponent : Int) :
    z.powInt? exponent = z.powUnchecked? exponent := by
  unfold powInt? powUnchecked?
  split
  · rfl
  · split
    · rfl
    · rcases powerFrom_cases one z exponent.natAbs with kept | ⟨left, broken⟩
      · rw [kept]
        rfl
      · have still : (if exponent < 0 then (powerUnchecked one z exponent.natAbs).recip
            else powerUnchecked one z exponent.natAbs).isFinite = false := by
          rw [← Bool.not_eq_true] at broken ⊢
          intro finite
          split at finite
          · exact broken (finite_of_recip finite)
          · exact broken finite
        rw [left, finite?, still, if_neg Bool.false_ne_true]
        rfl

/-- The size of a signed word as a word without a sign. The least signed word has the bits of its
own negation, and those are its size. -/
def wordSize (exponent : Int64) : UInt64 := exponent.abs.toUInt64

/-- The loop with its counter in a word of 64 bits. It has no answer if it is not over after the
given number of rounds. -/
def powerRounds : (rounds : Nat) → (result base : Complex α) → (n : UInt64) →
    Option (Option (Complex α))
  | 0, result, _, n => if n = 0 then some (some result) else none
  | rounds + 1, result, base, n =>
    if n = 0 then some (some result)
    else
      match round? (n % 2 = 1) (n / 2 = 0) result base with
      | some (result, base) => powerRounds rounds result base (n / 2)
      | none => some none

def powWord? (z : Complex α) (exponent : Int64) : Option (Option (Complex α)) :=
  if exponent = 0 then some (some one)
  else if z.isZero ∧ exponent < 0 then some none
  else
    match powerRounds 64 one z (wordSize exponent) with
    | some (some power) => some (finite? (if exponent < 0 then power.recip else power))
    | some none => some none
    | none => none

theorem toNat_wordSize (exponent : Int64) : (wordSize exponent).toNat = exponent.toInt.natAbs := by
  have bits : (wordSize exponent).toNat = exponent.toBitVec.abs.toNat := rfl
  have value : exponent.toInt = exponent.toBitVec.toInt := rfl
  have below := exponent.toBitVec.isLt
  rw [bits, value, BitVec.toNat_abs, BitVec.toInt_eq_msb_cond]
  split <;> omega

example : (wordSize Int64.minValue).toNat = 2 ^ 63 := by decide

theorem powerRounds_eq {rounds : Nat} {n : UInt64} (enough : n.toNat < 2 ^ rounds) :
    powerRounds rounds result base n = some (powerFrom result base n.toNat) := by
  induction rounds generalizing result base n with
  | zero =>
    have ended : n = 0 := UInt64.toNat_inj.mp (by simpa using enough)
    rw [powerRounds, if_pos ended, ended]
    exact congrArg some (powerFrom_zero result base).symm
  | succ rounds ih =>
    rw [powerRounds]
    split
    · rename_i ended
      rw [ended]
      exact congrArg some (powerFrom_zero result base).symm
    · rename_i more
      have more' : n.toNat ≠ 0 := fun none => more (UInt64.toNat_inj.mp none)
      have odd : (n % 2 = 1) = (n.toNat % 2 = 1) := by
        rw [← UInt64.toNat_inj, UInt64.toNat_mod]
        rfl
      have last : (n / 2 = 0) = (n.toNat / 2 = 0) := by
        rw [← UInt64.toNat_inj, UInt64.toNat_div]
        rfl
      have half : (n / 2).toNat = n.toNat / 2 := UInt64.toNat_div n 2
      rw [powerFrom_round more']
      simp only [odd, last]
      cases round? (n.toNat % 2 = 1) (n.toNat / 2 = 0) result base with
      | none => rfl
      | some next =>
        rw [Option.bind_some, ← half]
        exact ih (by rw [half]; omega)

theorem powWord?_eq (z : Complex α) (exponent : Int64) :
    z.powWord? exponent = some (z.powInt? exponent.toInt) := by
  have zero : (exponent = 0) = (exponent.toInt = 0) := by
    rw [← Int64.toInt_inj]
    rfl
  have negative : (exponent < 0) = (exponent.toInt < 0) := by
    rw [Int64.lt_iff_toInt_lt]
    rfl
  have rounds : powerRounds 64 one z (wordSize exponent) = _ :=
    powerRounds_eq (wordSize exponent).toNat_lt
  rw [toNat_wordSize] at rounds
  unfold powWord? powInt?
  simp only [zero, negative, rounds]
  split
  · rfl
  · split
    · rfl
    · cases powerFrom one z exponent.toInt.natAbs <;> rfl

end DiagramScript.Complex
