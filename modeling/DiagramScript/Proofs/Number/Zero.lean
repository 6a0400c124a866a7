import DiagramScript.Proofs.Number.Rounding
import DiagramScript.Number.Arithmetic

/-! Zero among the numbers. Both zeros stand at one place, and nothing else stands there
(`isZero_iff_place?`). A product of zero and a finite number is zero, and a finite number stays in
its place when zero is added (`place?_add_zero`). -/
namespace DiagramScript.Binary64

variable {x : Binary64}

theorem unitsPerOne_pos : 0 < unitsPerOne := by
  rw [unitsPerOne, Nat.one_shiftLeft]
  exact Nat.two_pow_pos 1074

theorem magnitude_injective : Function.Injective magnitude := by
  intro rank rank' same
  have back := nearestRank_magnitude rank Nat.one_pos
  rw [same, nearestRank_magnitude rank' Nat.one_pos] at back
  exact back.symm

theorem magnitude_eq_zero_iff {rank : Nat} : magnitude rank = 0 ↔ rank = 0 :=
  ⟨fun none => magnitude_injective none, fun none => by rw [none]; rfl⟩

theorem signed_eq_zero_iff {negative : Bool} {units : Nat} :
    signed negative units = 0 ↔ units = 0 := by
  cases negative <;> simp [signed]

theorem isZero_iff : x.isZero = true ↔ ∃ negative, x = zero negative := by
  constructor
  · intro none
    cases x with
    | finite negative rank =>
      exact ⟨negative, congrArg (finite negative) (Fin.ext (by simpa [isZero] using none))⟩
    | infinite => cases none
    | nan => cases none
  · rintro ⟨negative, rfl⟩
    rfl

theorem isZero_iff_place? : x.isZero = true ↔ x.place? = some 0 := by
  cases x with
  | finite negative rank =>
    rw [isZero, place?, Option.some.injEq, signed_eq_zero_iff, magnitude_eq_zero_iff, beq_iff_eq]
  | infinite negative =>
    rw [isZero, place?, Option.some.injEq, signed_eq_zero_iff, magnitude_eq_zero_iff]
    decide
  | nan => exact iff_of_false Bool.false_ne_true (Option.some_ne_none 0).symm

theorem isPositive_iff_place? :
    x.isPositive = true ↔ ∃ place, x.place? = some place ∧ 0 < place := by
  have zero : (zero false).place? = some 0 := isZero_iff_place?.mp rfl
  rw [isPositive, less, zero]
  cases x.place? <;> simp

theorem isPositive_of_isZero (none : x.isZero = true) : x.isPositive = false := by
  rw [← Bool.not_eq_true, isPositive_iff_place?, isZero_iff_place?.mp none]
  rintro ⟨place, same, positive⟩
  cases same
  exact absurd positive (Int.lt_irrefl 0)

theorem neither_of_negative {place : Int} (stands : x.place? = some place) (negative : place < 0) :
    x.isZero = false ∧ x.isPositive = false := by
  rw [← Bool.not_eq_true, ← Bool.not_eq_true, isZero_iff_place?, isPositive_iff_place?, stands]
  constructor
  · intro same
    cases same
    exact absurd negative (Int.lt_irrefl 0)
  · rintro ⟨place', same, positive⟩
    cases same
    exact absurd positive (Int.lt_asymm negative)

theorem ofRatio_zero (negative : Bool) {denominator : Nat} (positive : 0 < denominator) :
    ofRatio negative 0 denominator = zero negative :=
  ofRatio_of_small negative (by omega)

theorem ofSigned_zero (negative : Bool) (denominator : Nat) :
    ofSigned negative 0 denominator = zero negative :=
  if_pos rfl

theorem ofSigned_signed (zeroSign negative : Bool) {n : Nat} (nonzero : n ≠ 0) (d : Nat) :
    ofSigned zeroSign (signed negative n) d = ofRatio negative n d := by
  have sign : decide (signed negative n < 0) = negative := by
    cases negative with
    | false => simp [signed]
    | true =>
      simp only [signed, ↓reduceIte, decide_eq_true_eq]
      omega
  have size : (signed negative n).natAbs = n := by
    cases negative <;> simp [signed]
  rw [ofSigned, if_neg fun zero => nonzero (signed_eq_zero_iff.mp zero), sign, size]

theorem place?_ofSigned (zeroSign negative : Bool) (rank : Fin finiteCount) :
    (ofSigned zeroSign (signed negative (magnitude rank)) 1).place? =
      (finite negative rank).place? := by
  by_cases none : magnitude rank = 0
  · have units : signed negative (magnitude rank) = 0 := signed_eq_zero_iff.mpr none
    rw [units, ofSigned_zero, place?, units]
    exact isZero_iff_place?.mp rfl
  · rw [ofSigned_signed zeroSign negative none, ← Nat.mul_one (magnitude rank),
      ofRatio_magnitude negative rank Nat.one_pos]

section

variable (s t r : Bool) (rank : Fin finiteCount)

theorem signed_magnitude_zero : signed s (magnitude 0) = 0 :=
  signed_eq_zero_iff.mpr (magnitude_eq_zero_iff.mpr rfl)

theorem finite_mul_zero : mul (finite s rank) (zero t) = zero (s ^^ t) := by
  change ofRatio (s ^^ t) (magnitude rank * magnitude 0) unitsPerOne = _
  rw [magnitude_eq_zero_iff.mpr rfl, Nat.mul_zero, ofRatio_zero _ unitsPerOne_pos]

theorem finite_mulAdd_zero : mulAdd (finite s rank) (zero t) (zero r) = zero ((s ^^ t) && r) := by
  change ofSigned ((s ^^ t) && r) (signed (s ^^ t) (magnitude rank * magnitude 0) +
    signed r (magnitude 0 * unitsPerOne)) unitsPerOne = _
  rw [magnitude_eq_zero_iff.mpr rfl, Nat.mul_zero, Nat.zero_mul, signed_eq_zero_iff.mpr rfl,
    signed_eq_zero_iff.mpr rfl, Int.add_zero, ofSigned_zero]

theorem place?_add_zero :
    (add (finite s rank) (zero t)).place? = (finite s rank).place? := by
  change (ofSigned (s && t) (signed s (magnitude rank) + signed t (magnitude 0)) 1).place? = _
  rw [signed_magnitude_zero, Int.add_zero, place?_ofSigned]

theorem place?_zero_add :
    (add (zero s) (finite t rank)).place? = (finite t rank).place? := by
  change (ofSigned (s && t) (signed s (magnitude 0) + signed t (magnitude rank)) 1).place? = _
  rw [signed_magnitude_zero, Int.zero_add, place?_ofSigned]

end

end DiagramScript.Binary64
