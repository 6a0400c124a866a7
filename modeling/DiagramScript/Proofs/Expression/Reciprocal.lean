import DiagramScript.Proofs.Expression.Division

/-! The power minus one of a real base. It divides the base by its rounded square, so there is a
reciprocal exactly if that square is neither zero nor infinite (`evalPower_reciprocal`). A quotient
by the base itself has no such limits. -/
namespace DiagramScript

namespace Binary64

variable {a r : Fin finiteCount}

theorem magnitude_one : magnitude (1023 * binade) = unitsPerOne := by decide

theorem mulAdd_one_zero (s t : Bool) (nonzero : magnitude a ≠ 0) :
    mulAdd one (finite s a) (zero t) = finite s a := by
  have product : magnitude (1023 * binade) * magnitude a ≠ 0 := by
    rw [magnitude_one]
    exact Nat.mul_ne_zero unitsPerOne_pos.ne' nonzero
  change ofSigned _ (signed (false ^^ s) (magnitude (1023 * binade) * magnitude a) +
    signed t (magnitude 0 * unitsPerOne)) unitsPerOne = _
  rw [magnitude_eq_zero_iff.mpr rfl, Nat.zero_mul, signed_eq_zero_iff.mpr rfl, Int.add_zero,
    Bool.false_xor, ofSigned_signed _ _ product, magnitude_one, Nat.mul_comm,
    ofRatio_magnitude s a unitsPerOne_pos]

theorem zero_mul_finite (s t : Bool) (a : Fin finiteCount) :
    mul (zero s) (finite t a) = zero (s ^^ t) := by
  change ofRatio (s ^^ t) (magnitude 0 * magnitude a) unitsPerOne = _
  rw [magnitude_eq_zero_iff.mpr rfl, Nat.zero_mul, ofRatio_zero _ unitsPerOne_pos]

theorem zero_div_finite (s t : Bool) (nonzero : r.val ≠ 0) :
    div (zero s) (finite t r) = zero (s ^^ t) := by
  have positive : 0 < magnitude r := Nat.pos_of_ne_zero fun zero =>
    nonzero (magnitude_eq_zero_iff.mp zero)
  rw [zero, div, if_neg nonzero, magnitude_eq_zero_iff.mpr rfl, Nat.zero_mul,
    ofRatio_zero _ positive, zero]

theorem mul_self_add_zero (s : Bool) (a : Fin finiteCount) :
    add (mul (finite s a) (finite s a)) (zero false) = mul (finite s a) (finite s a) := by
  rw [finite_mul_self]
  rcases ofRatio_cases false (magnitude a * magnitude a) unitsPerOne with
    ⟨inRange, number⟩ | ⟨_, number⟩ <;> rw [number]
  · rw [zero, add, Bool.and_self, magnitude_eq_zero_iff.mpr rfl, signed_eq_zero_iff.mpr rfl,
      Int.add_zero, signed_false, ofSigned_natCast Nat.one_pos, ← Nat.mul_one (magnitude _),
      ofRatio_magnitude false ⟨_, inRange⟩ Nat.one_pos]
  · rfl

theorem magnitude_nearestRank_square_le (small : magnitude a ≤ unitsPerOne) :
    magnitude (nearestRank (magnitude a * magnitude a) unitsPerOne) ≤ magnitude a :=
  magnitude_le_iff.mpr (nearestRank_le unitsPerOne_pos (Nat.mul_le_mul_left _ small))

theorem le_magnitude_nearestRank_square (large : unitsPerOne ≤ magnitude a) :
    magnitude a ≤ magnitude (nearestRank (magnitude a * magnitude a) unitsPerOne) :=
  magnitude_le_iff.mpr (le_nearestRank unitsPerOne_pos (Nat.mul_le_mul_left _ large))

theorem div_square_isZero (s : Bool) (nonzero : magnitude a ≠ 0) (some : r.val ≠ 0)
    (square : nearestRank (magnitude a * magnitude a) unitsPerOne = r) :
    (div (finite s a) (finite false r)).isZero = false := by
  have positive : 0 < magnitude r := Nat.pos_of_ne_zero fun zero =>
    some (magnitude_eq_zero_iff.mp zero)
  have unit := unitsPerOne_pos
  rw [← Bool.not_eq_true, div, if_neg some, ofRatio_isZero_iff positive, Nat.not_le]
  rcases Nat.le_total (magnitude a) unitsPerOne with small | large
  · have bound := magnitude_nearestRank_square_le small
    rw [square] at bound
    calc magnitude r
      _ ≤ magnitude a * 1 := by rwa [Nat.mul_one]
      _ ≤ magnitude a * unitsPerOne := Nat.mul_le_mul_left _ unit
      _ < 2 * (magnitude a * unitsPerOne) := by
        have := Nat.mul_pos (Nat.pos_of_ne_zero nonzero) unit
        omega
  · have last : magnitude finiteCount < 2 * (unitsPerOne * unitsPerOne) := by decide
    calc magnitude r
      _ ≤ magnitude finiteCount := magnitude_le_iff.mpr (Nat.le_of_lt r.isLt)
      _ < 2 * (unitsPerOne * unitsPerOne) := last
      _ ≤ 2 * (magnitude a * unitsPerOne) :=
        Nat.mul_le_mul_left _ (Nat.mul_le_mul_right _ large)

theorem div_square_isFinite (s : Bool) (some : r.val ≠ 0)
    (square : nearestRank (magnitude a * magnitude a) unitsPerOne = r) :
    (div (finite s a) (finite false r)).isFinite = true := by
  have positive : 0 < magnitude r := Nat.pos_of_ne_zero fun zero =>
    some (magnitude_eq_zero_iff.mp zero)
  rw [div, if_neg some]
  rcases Nat.le_total unitsPerOne (magnitude a) with large | small
  · -- From one on the square is as large as the number.
    have bound := le_magnitude_nearestRank_square large
    rw [square] at bound
    refine ofRatio_isFinite_of_le positive (by decide : 1023 * binade < finiteCount) ?_
    rw [magnitude_one, Nat.mul_comm]
    exact Nat.mul_le_mul_left _ bound
  refine ofRatio_isFinite_of_le positive (by decide : 2046 * binade < finiteCount) ?_
  rcases Nat.le_total (magnitude a) (1 <<< 1023) with tiny | plain
  · -- Below `2 ^ (-51)` one unit in the square is enough.
    have top : 1 <<< 1023 * unitsPerOne = magnitude (2046 * binade) * 1 := by decide
    calc magnitude a * unitsPerOne
      _ ≤ 1 <<< 1023 * unitsPerOne := Nat.mul_le_mul_right _ tiny
      _ = magnitude (2046 * binade) * 1 := top
      _ ≤ magnitude (2046 * binade) * magnitude r := Nat.mul_le_mul_left _ positive
  · have limit : 1 <<< 1023 * 1 <<< 1023 = magnitude (921 * binade) * unitsPerOne := by decide
    have enough : unitsPerOne * unitsPerOne ≤
        magnitude (2046 * binade) * magnitude (921 * binade) := by decide
    have root := Nat.mul_le_mul plain plain
    rw [limit] at root
    have bound := le_nearestRank unitsPerOne_pos root
    rw [square] at bound
    calc magnitude a * unitsPerOne
      _ ≤ unitsPerOne * unitsPerOne := Nat.mul_le_mul_right _ small
      _ ≤ magnitude (2046 * binade) * magnitude (921 * binade) := enough
      _ ≤ magnitude (2046 * binade) * magnitude r :=
        Nat.mul_le_mul_left _ (magnitude_le_iff.mpr bound)

section One

variable (s : Bool) (units : magnitude a ≠ 0)

include units

theorem div_one_finite : div one (finite s a) =
    ofRatio (false ^^ s) (unitsPerOne * unitsPerOne) (magnitude a) := by
  have divisor : a.val ≠ 0 := fun zero => units (magnitude_eq_zero_iff.mpr zero)
  rw [one, div, if_neg divisor, magnitude_one]

theorem div_one_isFinite (some : unitsPerOne < 2 * (magnitude a * magnitude a)) :
    (div one (finite s a)).isFinite = true := by
  have small : 2 * (1 <<< 51 * 1 <<< 51) ≤ unitsPerOne := by decide
  have top : unitsPerOne * unitsPerOne = magnitude (2046 * binade) * 1 <<< 51 := by decide
  have large : 1 <<< 51 ≤ magnitude a := by
    refine Nat.le_of_not_le fun le => ?_
    have squares := Nat.mul_le_mul_left 2 (Nat.mul_le_mul le le)
    exact absurd some (Nat.not_lt.mpr (Nat.le_trans squares small))
  rw [div_one_finite s units]
  refine ofRatio_isFinite_of_le (Nat.pos_of_ne_zero units)
    (by decide : 2046 * binade < finiteCount) ?_
  rw [top]
  exact Nat.mul_le_mul_left _ large

theorem div_one_isZero : (div one (finite s a)).isZero = false := by
  have last : magnitude finiteCount < 2 * (unitsPerOne * unitsPerOne) := by decide
  rw [div_one_finite s units, ← Bool.not_eq_true, ofRatio_isZero_iff (Nat.pos_of_ne_zero units),
    Nat.not_le]
  exact Nat.lt_of_le_of_lt (magnitude_le_iff.mpr (Nat.le_of_lt a.isLt)) last

end One

end Binary64

namespace Complex

open Binary64

variable {z : Value} {a : Fin finiteCount}

theorem powInt?_neg_one (nonzero : z.isZero = false) :
    z.powInt? (-1) = (finite? (one * z)).bind fun power => finite? power.recip := by
  have loop : powerFrom one z 1 = finite? (one * z) := by
    rw [powerFrom_round (by decide), round?]
    cases finite? (one * z) <;> simp [powerFrom_zero]
  have entered : ¬(z.isZero = true ∧ (-1 : Int) < 0) := by simp [nonzero]
  rw [powInt?, if_neg (by decide), if_neg entered]
  change (powerFrom one z 1).bind _ = _
  rw [loop]
  rfl

theorem one_mul_real (s t : Bool) (nonzero : magnitude a ≠ 0) :
    ∃ r, (one * ⟨.finite s a, .zero t⟩ : Value) = ⟨.finite s a, .zero r⟩ := by
  have re := mulAdd_one_zero s (!t) nonzero
  have im := finite_mulAdd_zero false t s ⟨1023 * binade, by decide⟩
  rw [Bool.false_xor] at im
  have zeros : Binary64.mul (.zero false) (.zero t) = .zero (false ^^ t) :=
    finite_mul_zero false t ⟨0, by decide⟩
  refine ⟨t && s, ?_⟩
  change (⟨Binary64.mulAdd .one (.finite s a) (Binary64.neg (Binary64.mul (.zero false) (.zero t))),
    Binary64.mulAdd .one (.zero t) (Binary64.mul (.zero false) (.finite s a))⟩ : Value) = _
  rw [zeros, zero_mul_finite, Bool.false_xor, Bool.false_xor]
  exact congrArg₂ mk re im

theorem recip_of_real (s t : Bool) (a : Fin finiteCount) :
    recip (⟨.finite s a, .zero t⟩ : Value) =
      ⟨Binary64.div (.finite s a) (Binary64.mul (.finite s a) (.finite s a)),
        Binary64.neg (Binary64.div (.zero t) (Binary64.mul (.finite s a) (.finite s a)))⟩ := by
  have zeros : Binary64.mul (.zero t) (.zero t) = .zero false := by
    have product := finite_mul_zero t t ⟨0, by decide⟩
    rwa [Bool.xor_self] at product
  have square := mul_self_add_zero s a
  rw [← zeros] at square
  change (⟨Binary64.div _ (Binary64.add (Binary64.mul _ _) (Binary64.mul _ _)),
    Binary64.neg (Binary64.div _ (Binary64.add (Binary64.mul _ _) (Binary64.mul _ _)))⟩ : Value) = _
  rw [square]

section Reciprocal

variable (s t : Bool)

theorem recip_of_large (infinite : Binary64.mul (.finite s a) (.finite s a) = .infinite false) :
    (recip (⟨.finite s a, .zero t⟩ : Value)).isFinite = true ∧
      (recip (⟨.finite s a, .zero t⟩ : Value)).isZero = true := by
  rw [recip_of_real, infinite]
  exact ⟨rfl, rfl⟩

theorem recip_of_small (nonzero : magnitude a ≠ 0)
    (none : Binary64.mul (.finite s a) (.finite s a) = .zero false) :
    (recip (⟨.finite s a, .zero t⟩ : Value)).isFinite = false := by
  have dividend : a.val ≠ 0 := fun zero => nonzero (magnitude_eq_zero_iff.mpr zero)
  rw [recip_of_real, none, Binary64.zero, Binary64.div, if_pos rfl, if_neg dividend]
  rfl

theorem recip_of_square (nonzero : magnitude a ≠ 0) {r : Fin finiteCount} (some : r.val ≠ 0)
    (square : Binary64.mul (.finite s a) (.finite s a) = .finite false r) :
    (recip (⟨.finite s a, .zero t⟩ : Value)).isFinite = true ∧
      (recip (⟨.finite s a, .zero t⟩ : Value)).isZero = false := by
  have rank : nearestRank (magnitude a * magnitude a) unitsPerOne = r := by
    rw [finite_mul_self] at square
    rcases ofRatio_cases false (magnitude a * magnitude a) unitsPerOne with
      ⟨_, number⟩ | ⟨_, number⟩ <;> cases number.symm.trans square
    rfl
  rw [recip_of_real, square, zero_div_finite t false some]
  exact ⟨Bool.and_eq_true_iff.mpr ⟨div_square_isFinite s some rank, rfl⟩,
    Bool.and_eq_false_iff.mpr (.inl (div_square_isZero s nonzero some rank))⟩

end Reciprocal

end Complex

section MinusOne

open Binary64

variable {base exponent : Value}

theorem exists_real (finite : base.isFinite = true) (real : base.isReal = true)
    (nonzero : base.isZero = false) :
    ∃ s a t, base = ⟨.finite s a, .zero t⟩ ∧ magnitude a ≠ 0 := by
  obtain ⟨s, a, re⟩ := isFinite_iff.mp (Bool.and_eq_true_iff.mp finite).1
  obtain ⟨t, im⟩ := isZero_iff.mp real
  refine ⟨s, a, t, congrArg₂ Complex.mk re im, fun zero => ?_⟩
  have rank : a.val = 0 := magnitude_eq_zero_iff.mp zero
  rw [Complex.isZero, re, im] at nonzero
  simp [Scalar.isZero, Binary64.isZero, Binary64.zero, rank] at nonzero

variable (finite : base.isFinite = true) (real : base.isReal = true)
  (nonzero : base.isZero = false)

include finite real nonzero

theorem powInt?_real : ∃ s a t, base.re = .finite s a ∧ magnitude a ≠ 0 ∧
    base.powInt? (-1) = Complex.finite? (Complex.recip ⟨.finite s a, .zero t⟩) := by
  obtain ⟨s, a, t, rfl, some⟩ := exists_real finite real nonzero
  obtain ⟨r, product⟩ := Complex.one_mul_real s t some
  have kept : Complex.finite? (⟨.finite s a, .zero r⟩ : Value) = _ := if_pos rfl
  refine ⟨s, a, r, rfl, some, ?_⟩
  rw [Complex.powInt?_neg_one nonzero, product, kept, Option.bind_some]

theorem powInt?_real_cases :
    squareLimit ≤ base.re.size ∧ (∃ power, base.powInt? (-1) = some power ∧ power.isZero = true) ∨
    2 * (base.re.size * base.re.size) ≤ unitsPerOne ∧ base.powInt? (-1) = none ∨
    (unitsPerOne < 2 * (base.re.size * base.re.size) ∧ base.re.size < squareLimit) ∧
      ∃ power, base.powInt? (-1) = some power ∧ power.isFinite = true ∧ power.isZero = false := by
  obtain ⟨s, a, t, re, some, power⟩ := powInt?_real finite real nonzero
  rw [power, re]
  rcases square_cases s a with ⟨infinite, large⟩ | ⟨none, small⟩ | ⟨⟨r, other, square⟩, inside⟩
  · obtain ⟨finite, zero⟩ := Complex.recip_of_large s t infinite
    exact .inl ⟨large, _, if_pos finite, zero⟩
  · have broken := Complex.recip_of_small s t some none
    exact .inr (.inl ⟨small, if_neg (by rw [broken]; exact Bool.false_ne_true)⟩)
  · obtain ⟨finite, nonzero⟩ := Complex.recip_of_square s t some other square
    exact .inr (.inr ⟨inside, _, if_pos finite, finite, nonzero⟩)

theorem div_one_of_real (some : unitsPerOne < 2 * (base.re.size * base.re.size)) :
    (Complex.one / base).isFinite = true ∧ (Complex.one / base).isZero = false := by
  obtain ⟨s, a, t, rfl, units⟩ := exists_real finite real nonzero
  rw [size_finite] at some
  have divisor : a.val ≠ 0 := fun zero => units (magnitude_eq_zero_iff.mpr zero)
  have im : Binary64.div (.zero false) (.finite s a) = .zero (false ^^ s) :=
    zero_div_finite false s divisor
  have quotient : Complex.one / (⟨.finite s a, .zero t⟩ : Value) =
      ⟨Binary64.div .one (.finite s a), Binary64.div (.zero false) (.finite s a)⟩ :=
    Complex.div_of_real _ real
  rw [quotient, im]
  exact ⟨Bool.and_eq_true_iff.mpr ⟨div_one_isFinite s units some, rfl⟩,
    Bool.and_eq_false_iff.mpr (.inl (div_one_isZero s units))⟩

end MinusOne

/-- The power minus one of a real number other than zero goes by its square. Where the square is
rounded to zero the power is said to be too large, and where it is rounded to infinity, that is from
`2 ^ 512` on, the power is zero. Between these limits, and only there, it is finite and not zero.
One divided by the number is finite and not zero there as well as beyond the upper limit. -/
theorem evalPower_reciprocal {base exponent : Value} (finite : base.isFinite = true)
    (real : base.isReal = true) (nonzero : base.isZero = false)
    (whole : wholeExponent? exponent = some (-1)) (position : Nat) :
    ((∃ power, evalPower base exponent position = .ok power ∧ power.isFinite = true ∧
        power.isZero = false) ↔
      Binary64.unitsPerOne < 2 * (base.re.size * base.re.size) ∧
        base.re.size < Binary64.squareLimit) ∧
    (2 * (base.re.size * base.re.size) ≤ Binary64.unitsPerOne →
      evalPower base exponent position = .error (.overflow position)) ∧
    (Binary64.squareLimit ≤ base.re.size →
      ∃ power, evalPower base exponent position = .ok power ∧ power.isZero = true) ∧
    (Binary64.unitsPerOne < 2 * (base.re.size * base.re.size) →
      ∃ quotient, Operator.div.apply Complex.one base position = .ok quotient ∧
        quotient.isFinite = true ∧ quotient.isZero = false) := by
  obtain ⟨given, refused⟩ := evalPower_of_whole whole base position
  have error : powerError base position = .overflow position := by
    rw [powerError, nonzero, if_neg Bool.false_ne_true]
  have apart : Binary64.squareLimit ≤ base.re.size →
      Binary64.unitsPerOne < 2 * (base.re.size * base.re.size) := by
    intro large
    have limit : Binary64.unitsPerOne < 2 * (Binary64.squareLimit * Binary64.squareLimit) := by
      decide
    exact Nat.lt_of_lt_of_le limit (Nat.mul_le_mul_left 2 (Nat.mul_le_mul large large))
  have divided : Binary64.unitsPerOne < 2 * (base.re.size * base.re.size) →
      ∃ quotient, Operator.div.apply Complex.one base position = .ok quotient ∧
        quotient.isFinite = true ∧ quotient.isZero = false := fun some =>
    ⟨_, by rw [Operator.apply, nonzero, if_neg Bool.false_ne_true],
      div_one_of_real finite real nonzero some⟩
  rcases powInt?_real_cases finite real nonzero with
    ⟨large, power, found, zero⟩ | ⟨small, missing⟩ | ⟨⟨some, below⟩, power, found, kept⟩
  · have only := given power found
    refine ⟨⟨?_, fun inside => absurd large (Nat.not_le.mpr inside.2)⟩,
      fun small => absurd (apart large) (Nat.not_lt.mpr small),
      fun _ => ⟨power, only, zero⟩, divided⟩
    rintro ⟨power', evaluated, -, other⟩
    cases only.symm.trans evaluated
    cases zero.symm.trans other
  · have only := refused missing
    rw [error] at only
    refine ⟨⟨?_, fun inside => absurd inside.1 (Nat.not_lt.mpr small)⟩, fun _ => only,
      fun large => absurd (apart large) (Nat.not_lt.mpr small), divided⟩
    rintro ⟨power, evaluated, -⟩
    cases only.symm.trans evaluated
  · exact ⟨⟨fun _ => ⟨some, below⟩, fun _ => ⟨power, given power found, kept⟩⟩,
      fun small => absurd some (Nat.not_lt.mpr small),
      fun large => absurd below (Nat.not_lt.mpr large), divided⟩

/-- One divided by `1e200` and by `1e-200` is finite and not zero, but the power minus one of the
first is zero, and the second is said to have one that is too large. -/
theorem reciprocal_lost_at_extremes :
    (∃ base quotient power : Value, base.isReal = true ∧
      Operator.div.apply Complex.one base 1 = .ok quotient ∧ quotient.isFinite = true ∧
      quotient.isZero = false ∧
      evalPower base (Complex.ofReal (-Binary64.one)) 1 = .ok power ∧ power.isZero = true) ∧
    ∃ base quotient : Value, base.isReal = true ∧
      Operator.div.apply Complex.one base 1 = .ok quotient ∧ quotient.isFinite = true ∧
      quotient.isZero = false ∧
      evalPower base (Complex.ofReal (-Binary64.one)) 1 = .error (.overflow 1) := by
  let huge : Value := Complex.ofReal (Decimal.toBinary64 false ⟨1, 200⟩)
  let tiny : Value := Complex.ofReal (Decimal.toBinary64 false ⟨1, -200⟩)
  refine ⟨⟨huge, Complex.one / huge, ⟨.zero false, .zero true⟩, ?_⟩,
    tiny, Complex.one / tiny, ?_⟩ <;>
    decide +kernel

theorem evalPower_reciprocal_edges :
    (∃ base power : Value, base.re = Decimal.toBinary64 true ⟨3, 0⟩ ∧
      evalPower base (Complex.ofReal (-Binary64.one)) 0 = .ok power ∧ power.isFinite = true ∧
      power.isZero = false) ∧
    (∃ base : Value, base.re = Decimal.toBinary64 false ⟨1, -200⟩ ∧
      evalPower base (Complex.ofReal (-Binary64.one)) 0 = .error (.overflow 0)) ∧
    ∃ base power : Value, base.re = Decimal.toBinary64 true ⟨1, 200⟩ ∧
      evalPower base (Complex.ofReal (-Binary64.one)) 0 = .ok power ∧ power.isZero = true := by
  have whole : wholeExponent? (Complex.ofReal (-Binary64.one)) = some (-1) := by decide +kernel
  obtain ⟨plain, tiny, huge, ⟨re, finite, real, nonzero, inside⟩,
      ⟨re', finite', real', nonzero', small⟩, re'', finite'', real'', nonzero'', large⟩ :
      ∃ plain tiny huge : Value,
        (plain.re = Decimal.toBinary64 true ⟨3, 0⟩ ∧ plain.isFinite = true ∧
          plain.isReal = true ∧ plain.isZero = false ∧
          Binary64.unitsPerOne < 2 * (plain.re.size * plain.re.size) ∧
          plain.re.size < Binary64.squareLimit) ∧
        (tiny.re = Decimal.toBinary64 false ⟨1, -200⟩ ∧ tiny.isFinite = true ∧
          tiny.isReal = true ∧ tiny.isZero = false ∧
          2 * (tiny.re.size * tiny.re.size) ≤ Binary64.unitsPerOne) ∧
        huge.re = Decimal.toBinary64 true ⟨1, 200⟩ ∧ huge.isFinite = true ∧
          huge.isReal = true ∧ huge.isZero = false ∧ Binary64.squareLimit ≤ huge.re.size :=
    ⟨Complex.ofReal (Decimal.toBinary64 true ⟨3, 0⟩),
      Complex.ofReal (Decimal.toBinary64 false ⟨1, -200⟩),
      Complex.ofReal (Decimal.toBinary64 true ⟨1, 200⟩), by decide +kernel⟩
  obtain ⟨power, kept⟩ := (evalPower_reciprocal finite real nonzero whole 0).1.mpr inside
  have overflow := (evalPower_reciprocal finite' real' nonzero' whole 0).2.1 small
  obtain ⟨power', zero⟩ := (evalPower_reciprocal finite'' real'' nonzero'' whole 0).2.2.1 large
  exact ⟨⟨plain, power, re, kept⟩, ⟨tiny, re', overflow⟩, huge, power', re'', zero⟩

end DiagramScript
