import DiagramScript.Number.Arithmetic

/-! Arithmetic never comes back from infinity. A sum, a product or a quotient with a part that is
infinite or undefined is finite only where a finite number is divided by infinity, so finite results
have finite operands. The class `Scalar.Strict` holds just that, for all later uses. -/
namespace DiagramScript

/-- Scalars whose finite results come from finite operands, the divisor of a quotient apart. -/
class Scalar.Strict (α : Type) [Scalar α] : Prop where
  finite_of_neg {x : α} : Scalar.isFinite (-x) = true → Scalar.isFinite x = true
  finite_of_mul {x y : α} : Scalar.isFinite (x * y) = true →
    Scalar.isFinite x = true ∧ Scalar.isFinite y = true
  finite_of_mulAdd {x y z : α} : Scalar.isFinite (Scalar.mulAdd x y z) = true →
    Scalar.isFinite x = true ∧ Scalar.isFinite y = true ∧ Scalar.isFinite z = true
  finite_of_div {x y : α} : Scalar.isFinite (x / y) = true → Scalar.isFinite x = true

namespace Binary64

variable {x y z : Binary64}

theorem isFinite_iff : x.isFinite = true ↔ ∃ negative rank, x = finite negative rank := by
  constructor
  · intro finite
    cases x with
    | finite negative rank => exact ⟨negative, rank, rfl⟩
    | infinite => cases finite
    | nan => cases finite
  · rintro ⟨negative, rank, rfl⟩
    rfl

theorem finite_of_add (finite : (add x y).isFinite = true) :
    x.isFinite = true ∧ y.isFinite = true := by
  cases x <;> cases y
  case finite.finite => exact ⟨rfl, rfl⟩
  case infinite.infinite s t => by_cases same : s = t <;> simp [add, same, isFinite] at finite
  all_goals cases finite

theorem finite_of_mul (finite : (mul x y).isFinite = true) :
    x.isFinite = true ∧ y.isFinite = true := by
  cases x <;> cases y
  case finite.finite => exact ⟨rfl, rfl⟩
  -- Zero times infinity is undefined, and anything else times infinity is infinite.
  case finite.infinite s a t => by_cases zero : a.val = 0 <;> simp [mul, zero, isFinite] at finite
  case infinite.finite s t b => by_cases zero : b.val = 0 <;> simp [mul, zero, isFinite] at finite
  all_goals cases finite

theorem mulAdd_cases (x y z : Binary64) :
    (∃ s a t b, x = .finite s a ∧ y = .finite t b) ∨ mulAdd x y z = add (mul x y) z := by
  cases x <;> cases y
  case finite.finite s a t b => exact .inl ⟨s, a, t, b, rfl, rfl⟩
  all_goals exact .inr rfl

theorem finite_of_mulAdd (finite : (mulAdd x y z).isFinite = true) :
    x.isFinite = true ∧ y.isFinite = true ∧ z.isFinite = true := by
  rcases mulAdd_cases x y z with ⟨s, a, t, b, rfl, rfl⟩ | sum
  · cases z with
    | finite => exact ⟨rfl, rfl, rfl⟩
    | infinite => cases finite
    | nan => cases finite
  · rw [sum] at finite
    obtain ⟨product, last⟩ := finite_of_add finite
    exact ⟨(finite_of_mul product).1, (finite_of_mul product).2, last⟩

theorem finite_of_div (finite : (div x y).isFinite = true) : x.isFinite = true := by
  cases x with
  | finite => rfl
  | infinite => cases y <;> cases finite
  | nan => cases finite

theorem finite_of_neg (finite : (neg x).isFinite = true) : x.isFinite = true := by
  cases x <;> exact finite

instance : Scalar.Strict Binary64 where
  finite_of_neg := finite_of_neg
  finite_of_mul := finite_of_mul
  finite_of_mulAdd := finite_of_mulAdd
  finite_of_div := finite_of_div

end Binary64
end DiagramScript
