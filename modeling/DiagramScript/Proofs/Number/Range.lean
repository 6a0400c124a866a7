import DiagramScript.Proofs.Number.Finiteness
import DiagramScript.Proofs.Number.Zero

/-! Where rounding leaves the range of the numbers. Rounding keeps order, and what is representable
stays as it is, so no ratio is rounded past a representable magnitude (`nearestRank_le`,
`le_nearestRank`). A ratio is rounded to zero exactly if it is half a unit at most. -/
namespace DiagramScript

theorem divNearest_le (numerator denominator : Nat) :
    divNearest numerator denominator ≤ numerator / denominator + 1 := by
  grind [divNearest]

theorem divNearest_mono {numerator numerator' : Nat} (le : numerator ≤ numerator')
    (denominator : Nat) : divNearest numerator denominator ≤ divNearest numerator' denominator := by
  rcases Nat.lt_or_eq_of_le (Nat.div_le_div_right (c := denominator) le) with less | same
  · calc divNearest numerator denominator
      _ ≤ numerator / denominator + 1 := divNearest_le _ _
      _ ≤ numerator' / denominator := less
      _ ≤ divNearest numerator' denominator := div_le_divNearest _ _
  · have parts := Nat.div_add_mod numerator denominator
    have parts' := Nat.div_add_mod numerator' denominator
    rw [same] at parts
    have rests : numerator % denominator ≤ numerator' % denominator := by omega
    simp only [divNearest, same]
    grind

theorem divNearest_eq_zero_iff {numerator denominator : Nat} (positive : 0 < denominator) :
    divNearest numerator denominator = 0 ↔ 2 * numerator ≤ denominator := by
  have parts := Nat.div_add_mod numerator denominator
  have rest := Nat.mod_lt numerator positive
  by_cases small : numerator / denominator = 0
  · rw [small, Nat.mul_zero, Nat.zero_add] at parts
    simp only [divNearest, small, parts]
    grind
  · have some := Nat.pos_of_ne_zero small
    have whole : denominator ≤ denominator * (numerator / denominator) :=
      Nat.le_mul_of_pos_right _ some
    have above := div_le_divNearest numerator denominator
    exact iff_of_false (by omega) (by omega)

namespace Binary64

section Rank

variable (n d : Nat)

theorem div_shiftLeft (k : Nat) : n / (d <<< k) = n / d / 2 ^ k := by
  rw [Nat.shiftLeft_eq, Nat.div_div_eq_div_mul]

theorem divNearest_le_binades : divNearest n (d <<< doublingsNear n d) ≤ 2 * binade := by
  have significand : n / (d <<< doublingsNear n d) < 2 ^ 53 := by
    rw [div_shiftLeft, Nat.div_lt_iff_lt_mul (Nat.two_pow_pos _), ← Nat.pow_add]
    have bits : (n / d).log2 + 1 ≤ 53 + doublingsNear n d := by
      rw [doublingsNear]
      omega
    exact Nat.lt_of_lt_of_le Nat.lt_log2_self (Nat.pow_le_pow_right (by decide) bits)
  have above := divNearest_le n (d <<< doublingsNear n d)
  rw [binade_eq]
  omega

theorem binade_le_divNearest (doubled : doublingsNear n d ≠ 0) :
    binade ≤ divNearest n (d <<< doublingsNear n d) := by
  have nonzero : n / d ≠ 0 := by
    intro zero
    rw [doublingsNear, zero] at doubled
    exact doubled rfl
  have significand : 2 ^ 52 ≤ n / (d <<< doublingsNear n d) := by
    rw [div_shiftLeft, Nat.le_div_iff_mul_le (Nat.two_pow_pos _), ← Nat.pow_add]
    have bits : 52 + doublingsNear n d = (n / d).log2 := by
      rw [doublingsNear] at doubled ⊢
      omega
    rw [bits]
    exact Nat.log2_self_le nonzero
  rw [binade_eq]
  exact Nat.le_trans significand (div_le_divNearest _ _)

end Rank

theorem log2_mono {a b : Nat} (le : a ≤ b) : a.log2 ≤ b.log2 := by
  by_cases zero : a = 0
  · rw [zero]
    exact Nat.zero_le _
  · exact (Nat.le_log2 (by omega)).mpr (Nat.le_trans (Nat.log2_self_le zero) le)

theorem nearestRank_mono {n n' : Nat} (le : n ≤ n') (d : Nat) :
    nearestRank n d ≤ nearestRank n' d := by
  have doublings : doublingsNear n d ≤ doublingsNear n' d :=
    Nat.sub_le_sub_right (log2_mono (Nat.div_le_div_right le)) 52
  rcases Nat.lt_or_eq_of_le doublings with more | same
  · -- The larger ratio is past the power of two that the smaller one can reach.
    have below := divNearest_le_binades n d
    have above := binade_le_divNearest n' d (by omega)
    simp only [nearestRank, binade_eq] at below above ⊢
    omega
  · rw [nearestRank, nearestRank, same]
    exact Nat.add_le_add_left (divNearest_mono le _) _

variable {rank n d : Nat}

theorem le_nearestRank (positive : 0 < d) (le : magnitude rank * d ≤ n) :
    rank ≤ nearestRank n d := by
  have rounded := nearestRank_mono le d
  rwa [nearestRank_magnitude rank positive] at rounded

theorem nearestRank_le (positive : 0 < d) (le : n ≤ magnitude rank * d) :
    nearestRank n d ≤ rank := by
  have rounded := nearestRank_mono le d
  rwa [nearestRank_magnitude rank positive] at rounded

theorem magnitude_le_iff {rank' : Nat} : magnitude rank ≤ magnitude rank' ↔ rank ≤ rank' := by
  have reflect {a b : Nat} (le : magnitude a ≤ magnitude b) : a ≤ b := by
    have rounded := nearestRank_mono le 1
    rw [← Nat.mul_one (magnitude a), ← Nat.mul_one (magnitude b)] at rounded
    rwa [nearestRank_magnitude a Nat.one_pos, nearestRank_magnitude b Nat.one_pos] at rounded
  refine ⟨reflect, fun le => ?_⟩
  rcases Nat.le_total (magnitude rank) (magnitude rank') with kept | turned
  · exact kept
  · rw [Nat.le_antisymm le (reflect turned)]

theorem nearestRank_eq_zero_iff (positive : 0 < d) : nearestRank n d = 0 ↔ 2 * n ≤ d := by
  by_cases doubled : doublingsNear n d = 0
  · rw [nearestRank, doubled, Nat.zero_mul, Nat.zero_add, Nat.shiftLeft_zero,
      divNearest_eq_zero_iff positive]
  · have above := binade_le_divNearest n d doubled
    have large : ¬2 * n ≤ d := by
      intro small
      rw [doublingsNear, Nat.div_eq_of_lt (by omega)] at doubled
      exact doubled rfl
    rw [binade_eq] at above
    exact iff_of_false (by rw [nearestRank]; omega) large

section Ratio

variable {negative : Bool}

theorem ofRatio_cases (negative : Bool) (n d : Nat) :
    (∃ inRange, ofRatio negative n d = finite negative ⟨nearestRank n d, inRange⟩) ∨
      finiteCount ≤ nearestRank n d ∧ ofRatio negative n d = infinite negative := by
  unfold ofRatio
  split
  · rename_i inRange
    exact .inl ⟨inRange, rfl⟩
  · rename_i beyond
    exact .inr ⟨Nat.le_of_not_lt beyond, rfl⟩

theorem ofRatio_isZero_iff (positive : 0 < d) :
    (ofRatio negative n d).isZero = true ↔ 2 * n ≤ d := by
  rw [← nearestRank_eq_zero_iff positive]
  rcases ofRatio_cases negative n d with ⟨inRange, number⟩ | ⟨beyond, number⟩
  · rw [number, isZero, beq_iff_eq]
  · rw [number, isZero]
    exact iff_of_false Bool.false_ne_true (by rw [finiteCount, binade_eq] at beyond; omega)

theorem ofRatio_isFinite_iff :
    (ofRatio negative n d).isFinite = true ↔ nearestRank n d < finiteCount := by
  rcases ofRatio_cases negative n d with ⟨inRange, number⟩ | ⟨beyond, number⟩
  · rw [number]
    exact iff_of_true rfl inRange
  · rw [number]
    exact iff_of_false Bool.false_ne_true (Nat.not_lt.mpr beyond)

theorem ofRatio_isFinite_of_le (positive : 0 < d) (inside : rank < finiteCount)
    (le : n ≤ magnitude rank * d) : (ofRatio negative n d).isFinite = true :=
  ofRatio_isFinite_iff.mpr (Nat.lt_of_le_of_lt (nearestRank_le positive le) inside)

theorem signed_false (n : Nat) : signed false n = n := rfl

theorem ofSigned_natCast (positive : 0 < d) : ofSigned false n d = ofRatio false n d := by
  by_cases none : n = 0
  · rw [none, Int.natCast_zero, ofSigned_zero, ofRatio_zero false positive]
  · exact ofSigned_signed false false none d

end Ratio

section Square

/-- The number of units in a magnitude, whatever the sign; it is zero for what is not finite. -/
def size (x : Binary64) : Nat := x.units.natAbs

theorem size_finite (negative : Bool) (rank : Fin finiteCount) :
    (finite negative rank).size = magnitude rank := by
  cases negative <;> simp [size, units, signed]

/-- `2 ^ 512` in units. From there on squares are infinite. -/
def squareLimit : Nat := 1 <<< 1586

theorem finite_mul_self (negative : Bool) (rank : Fin finiteCount) :
    mul (finite negative rank) (finite negative rank) =
      ofRatio false (magnitude rank * magnitude rank) unitsPerOne := by
  rw [mul, Bool.xor_self]

variable {x : Binary64}

theorem mul_self_isZero_iff (finite : x.isFinite = true) :
    (mul x x).isZero = true ↔ 2 * (x.size * x.size) ≤ unitsPerOne := by
  obtain ⟨negative, rank, rfl⟩ := isFinite_iff.mp finite
  rw [finite_mul_self, size_finite, ofRatio_isZero_iff unitsPerOne_pos]

theorem mul_self_isFinite_iff (finite : x.isFinite = true) :
    (mul x x).isFinite = true ↔ x.size < squareLimit := by
  obtain ⟨negative, rank, rfl⟩ := isFinite_iff.mp finite
  have limit : magnitude (1535 * binade) = squareLimit := by decide
  have infinite : magnitude finiteCount * unitsPerOne ≤ squareLimit * squareLimit := by decide
  have last : magnitude (1535 * binade - 1) * magnitude (1535 * binade - 1) ≤
      magnitude (finiteCount - 1) * unitsPerOne := by decide
  rw [finite_mul_self, size_finite]
  constructor
  · intro square
    refine Nat.lt_of_not_le fun large => ?_
    have beyond := le_nearestRank unitsPerOne_pos
      (Nat.le_trans infinite (Nat.mul_le_mul large large))
    exact absurd (ofRatio_isFinite_iff.mp square) (Nat.not_lt.mpr beyond)
  · intro small
    -- The largest number below the limit has a square below the largest finite number.
    have below : rank.val ≤ 1535 * binade - 1 := by
      refine Nat.le_sub_one_of_lt (Nat.lt_of_not_le fun above => ?_)
      have le := magnitude_le_iff.mpr above
      omega
    have le := magnitude_le_iff.mpr below
    exact ofRatio_isFinite_of_le unitsPerOne_pos (by decide)
      (Nat.le_trans (Nat.mul_le_mul le le) last)

theorem square_cases (negative : Bool) (rank : Fin finiteCount) :
    mul (finite negative rank) (finite negative rank) = infinite false ∧
        squareLimit ≤ (finite negative rank).size ∨
      mul (finite negative rank) (finite negative rank) = zero false ∧
        2 * ((finite negative rank).size * (finite negative rank).size) ≤ unitsPerOne ∨
      (∃ rank' : Fin finiteCount, rank'.val ≠ 0 ∧
        mul (finite negative rank) (finite negative rank) = finite false rank') ∧
        unitsPerOne < 2 * ((finite negative rank).size * (finite negative rank).size) ∧
        (finite negative rank).size < squareLimit := by
  have zero_iff := mul_self_isZero_iff (x := finite negative rank) rfl
  have finite_iff := mul_self_isFinite_iff (x := finite negative rank) rfl
  rw [finite_mul_self] at zero_iff finite_iff ⊢
  rcases ofRatio_cases false (magnitude rank * magnitude rank) unitsPerOne with
    ⟨inRange, number⟩ | ⟨_, number⟩
  · rw [number] at zero_iff finite_iff ⊢
    by_cases none : nearestRank (magnitude rank * magnitude rank) unitsPerOne = 0
    · have isZero : (finite false ⟨_, inRange⟩).isZero = true := beq_iff_eq.mpr none
      exact .inr (.inl ⟨congrArg (finite false) (Fin.ext none), zero_iff.mp isZero⟩)
    · have other : ¬(finite false ⟨_, inRange⟩).isZero = true := fun zero =>
        none (beq_iff_eq.mp zero)
      exact .inr (.inr ⟨⟨⟨_, inRange⟩, none, rfl⟩,
        Nat.lt_of_not_le fun small => other (zero_iff.mpr small), finite_iff.mp rfl⟩)
  · rw [number] at finite_iff
    exact .inl ⟨number, Nat.le_of_not_lt fun small => Bool.false_ne_true (finite_iff.mpr small)⟩

end Square

end Binary64
end DiagramScript
