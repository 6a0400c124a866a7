import DiagramScript.Number.Shortest
import DiagramScript.Proofs.Number.Numerals
import DiagramScript.Proofs.Number.Rounding
import Mathlib.Tactic.FieldSimp

/-! Numbers are written so that they read back (`Binary64.read?_display`). The shortest decimal of a
magnitude is read as that magnitude, because the search keeps nothing else, and the text without an
exponent is a numeral of the same value. So two numbers of one text are the same
(`Binary64.display_injective`). -/
namespace DiagramScript

namespace Decimal

theorem search_reads_back {rank : Fin Binary64.finiteCount} {d : Decimal} {grids : Nat}
    {exponent : Int} (found : search rank grids exponent = some d) :
    d.toBinary64 false = .finite false rank := by
  induction grids generalizing exponent with
  | zero => cases found
  | succ grids ih =>
    rw [search] at found
    split at found
    · rename_i neighbour
      cases found
      simpa using List.find?_some neighbour
    · exact ih found

/-- A magnitude has a decimal of its own, with as many digits as it takes. -/
theorem exact_reads_back (rank : Fin Binary64.finiteCount) {bits : Nat}
    (unit : Binary64.unitsPerOne = 1 <<< bits) :
    toBinary64 false ⟨Binary64.magnitude rank * Nat.pow 5 bits, -bits⟩ = .finite false rank := by
  have ten : (10 : ℚ) ^ bits = 5 ^ bits * 2 ^ bits := by rw [← mul_pow]; norm_num
  have exact : value ⟨Binary64.magnitude rank * Nat.pow 5 bits, -bits⟩ * Binary64.unitsPerOne =
      (Binary64.magnitude rank * 1 : Nat) / (1 : Nat) := by
    rw [unit, Nat.one_shiftLeft, Nat.pow_eq, value, zpow_neg, zpow_natCast, ten]
    push_cast
    field_simp
  rw [toBinary64_of_ratio Nat.one_pos exact]
  exact Binary64.ofRatio_magnitude false rank Nat.one_pos

theorem shortest_reads_back (rank : Fin Binary64.finiteCount) :
    (shortest rank).toBinary64 false = .finite false rank := by
  unfold shortest
  dsimp only
  cases found : search rank 20 (exponentAbove (Binary64.magnitude rank)) with
  | none =>
    -- The exact decimal stands behind all grids.
    apply exact_reads_back
    rw [Binary64.unitsPerOne]
  | some d => exact search_reads_back found

theorem toBinary64_of_positive {d : Decimal} {rank : Fin Binary64.finiteCount}
    (read : d.toBinary64 false = .finite false rank) (negative : Bool) :
    d.toBinary64 negative = .finite negative rank := by
  rw [toBinary64_eq_ofRatio] at read ⊢
  exact Binary64.ofRatio_of_positive read negative

theorem digits_toDigits (n : Nat) : Digits (Nat.toDigits 10 n) :=
  fun _ member => Nat.isDigit_of_mem_toDigits (by decide) (Nat.le_refl 10) member

theorem ofDigitChars_behind (n : Nat) (digits : Text) :
    Nat.ofDigitChars 10 (Nat.toDigits 10 n ++ digits) 0 =
      n * 10 ^ digits.length + Nat.ofDigitChars 10 digits 0 := by
  rw [Nat.ofDigitChars_append, Nat.ofDigitChars_ten_toDigits, Nat.ofDigitChars_eq_ofDigitChars_zero,
    Nat.mul_comm]

section Padded

variable {width n : Nat}

theorem digits_padded (width n : Nat) : Digits (padded width n) :=
  List.forall_mem_append.mpr
    ⟨fun c member => by rw [List.eq_of_mem_replicate member]; rfl, digits_toDigits n⟩

theorem ofDigitChars_padded (width n : Nat) : Nat.ofDigitChars 10 (padded width n) 0 = n := by
  rw [padded, Nat.ofDigitChars_append, Nat.ofDigitChars_replicate_zero, Nat.mul_zero,
    Nat.ofDigitChars_ten_toDigits]

theorem length_padded (some : 0 < width) (fits : n < 10 ^ width) :
    (padded width n).length = width := by
  have digits := (Nat.length_toDigits_le_iff (by decide) some).mpr fits
  rw [padded, List.length_append, List.length_replicate]
  omega

end Padded

theorem dropTrailingZeros_splits (digits : Text) :
    ∃ zeros, digits = dropTrailingZeros digits ++ List.replicate zeros '0' := by
  have zeros : digits.reverse.takeWhile (· == '0') =
      List.replicate (digits.reverse.takeWhile (· == '0')).length '0' :=
    List.eq_replicate_of_mem fun c member => by simpa using List.mem_takeWhile_imp member
  refine ⟨(digits.reverse.takeWhile (· == '0')).length, ?_⟩
  rw [dropTrailingZeros, ← List.reverse_replicate, ← zeros, ← List.reverse_append,
    List.takeWhile_append_dropWhile, List.reverse_reverse]

theorem value_scaled (n places zeros : Nat) :
    value ⟨n, -places⟩ = value ⟨n * 10 ^ zeros, -(places + zeros : Nat)⟩ := by
  have some : (10 : ℚ) ^ zeros ≠ 0 := pow_ne_zero _ (by norm_num)
  simp only [value, zpow_neg, zpow_natCast]
  push_cast
  rw [pow_add]
  field_simp

theorem value_of_digits {digits k zeros : Nat} {fraction : Text}
    (splits : padded (k + 1) (digits % tenTo (k + 1)) = fraction ++ List.replicate zeros '0') :
    value ⟨Nat.ofDigitChars 10 (Nat.toDigits 10 (digits / tenTo (k + 1)) ++ fraction) 0,
      -fraction.length⟩ = value ⟨digits, .negSucc k⟩ := by
  -- The zeros put back make `k + 1` places, and those are the digits behind the point.
  have fits : digits % tenTo (k + 1) < 10 ^ (k + 1) := Nat.mod_lt _ (Nat.pow_pos (by decide))
  have width : (padded (k + 1) (digits % tenTo (k + 1))).length = k + 1 :=
    length_padded k.succ_pos fits
  rw [splits, List.length_append, List.length_replicate] at width
  have amount : Nat.ofDigitChars 10 fraction 0 * 10 ^ zeros = digits % tenTo (k + 1) := by
    rw [← ofDigitChars_padded (k + 1) (digits % tenTo (k + 1)), splits, Nat.ofDigitChars_append,
      Nat.ofDigitChars_replicate_zero, Nat.mul_comm]
  rw [value_scaled _ _ zeros, width, ofDigitChars_behind, Nat.add_mul, Nat.mul_assoc, ← Nat.pow_add,
    width, amount, ← tenTo_eq, Nat.div_add_mod']
  rfl

theorem positional_numeral (d : Decimal) :
    ∃ written, Numeral d.positional written ∧ written.value = d.value := by
  rcases d with ⟨digits, e | k⟩
  · have whole := Numeral.whole (digits_toDigits (digits * tenTo e)) Nat.toDigits_ne_nil .none
    rw [List.append_nil, Nat.ofDigitChars_ten_toDigits] at whole
    refine ⟨_, whole, ?_⟩
    simp [value, tenTo_eq]
  · obtain ⟨zeros, splits⟩ := dropTrailingZeros_splits (padded (k + 1) (digits % tenTo (k + 1)))
    have before := digits_toDigits (digits / tenTo (k + 1))
    have behind : Digits (dropTrailingZeros (padded (k + 1) (digits % tenTo (k + 1)))) := by
      intro c member
      refine digits_padded (k + 1) (digits % tenTo (k + 1)) c ?_
      rw [splits]
      exact List.mem_append_left _ member
    have value := value_of_digits splits
    simp only [positional]
    split
    · rename_i nothing
      rw [nothing] at value
      have whole := Numeral.whole before Nat.toDigits_ne_nil .none
      rw [List.append_nil] at whole value
      exact ⟨_, whole, value⟩
    · have pointed := Numeral.pointed before behind (.inl Nat.toDigits_ne_nil) .none
      rw [List.append_nil, Int.zero_sub] at pointed
      exact ⟨_, pointed, value⟩

end Decimal

namespace Binary64

theorem digits_numeral (rank : Fin finiteCount) :
    ∃ written, Decimal.Numeral
        (if rank.val = 0 then ['0'] else (Decimal.shortest rank).positional) written ∧
      written.toBinary64 false = .finite false rank := by
  split
  · rename_i zero
    have digits : Decimal.Digits ['0'] := by simp [Decimal.Digits]
    have whole := Decimal.Numeral.whole digits (List.cons_ne_nil _ _) .none
    have same : rank = ⟨0, by decide⟩ := Fin.ext zero
    exact ⟨_, whole, by rw [same]; rfl⟩
  · obtain ⟨written, numeral, value⟩ := Decimal.positional_numeral (Decimal.shortest rank)
    refine ⟨written, numeral, ?_⟩
    rw [Decimal.toBinary64_congr value, Decimal.shortest_reads_back]

theorem read?_display (x : Binary64) : read? x.display = some x := by
  cases x with
  | finite negative rank =>
    obtain ⟨written, numeral, read⟩ := digits_numeral rank
    cases negative with
    | false => rw [display, if_neg Bool.false_ne_true, read?_of_numeral numeral, read]
    | true =>
      rw [display, if_pos rfl, read?, readUnsigned?_of_numeral true numeral,
        Decimal.toBinary64_of_positive read]
  | infinite negative => cases negative <;> decide
  | nan => decide

def spellsNumber (c : Char) : Bool :=
  c.isDigit || "+-.eEinfNa".toList.contains c

theorem spellsNumber_of_numeral {c : Char}
    (spelled : c.isDigit = true ∨ c ∈ ['+', '-', '.', 'e', 'E']) : spellsNumber c = true := by
  rw [spellsNumber, Bool.or_eq_true, List.contains_iff_mem]
  exact spelled.imp_right (List.mem_append_left "infNa".toList)

theorem display_characters (x : Binary64) : ∀ c ∈ x.display, spellsNumber c = true := by
  cases x with
  | finite negative rank =>
    obtain ⟨written, numeral, _⟩ := digits_numeral rank
    have inside : ∀ c ∈ (if rank.val = 0 then ['0'] else (Decimal.shortest rank).positional),
        spellsNumber c = true := fun c member =>
      spellsNumber_of_numeral (Decimal.numeral_characters numeral c member)
    cases negative with
    | false =>
      rw [display, if_neg Bool.false_ne_true]
      exact inside
    | true =>
      rw [display, if_pos rfl]
      exact List.forall_mem_cons.mpr ⟨by decide, inside⟩
  | infinite negative => cases negative <;> exact List.all_eq_true.mp (by decide)
  | nan => exact List.all_eq_true.mp (by decide)

theorem display_injective : Function.Injective display := by
  intro x y same
  have read : some x = some y := by rw [← read?_display x, same, read?_display y]
  exact Option.some.inj read

end Binary64
end DiagramScript
