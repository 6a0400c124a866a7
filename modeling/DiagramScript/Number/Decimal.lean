import DiagramScript.Number.Binary64
import DiagramScript.Text.Taken

/-! Decimal numerals: their grammar and the binary numbers they stand for.

A numeral has digits with at most one point among or beside them, and an optional exponent. The
same scanner serves wherever numerals are read; `scan?_splits` and `scan?_text_ne_nil` say that it
cuts its input in two and takes something. -/
namespace DiagramScript

def tenTo (exponent : Nat) : Nat := Nat.pow 10 exponent

/-- The number `digits · 10 ^ exponent`. -/
structure Decimal where
  digits : Nat
  exponent : Int
deriving DecidableEq

namespace Decimal

/-- The nearest binary number. Exponents that lead far beyond either end of the range are
answered without computing the power of ten. -/
def toBinary64 (negative : Bool) (d : Decimal) : Binary64 :=
  if d.digits = 0 then .zero negative
  else
    match d.exponent with
    | .ofNat e =>
      if 1024 ≤ d.digits.log2 + 3 * e then .infinite negative
      else .ofRatio negative (d.digits * tenTo e * Binary64.unitsPerOne) 1
    | .negSucc k =>
      if d.digits.log2 + 1076 ≤ 3 * (k + 1) then .zero negative
      else .ofRatio negative (d.digits * Binary64.unitsPerOne) (tenTo (k + 1))

def scanFraction : Text → Taken Text
  | '.' :: rest => (Taken.run Char.isDigit rest).behind '.' id
  | input => ⟨[], [], input⟩

def scanDigits? (input : Text) : Option (Taken Nat) :=
  let digits := Taken.run Char.isDigit input
  if digits.value = [] then none
  else some ⟨Nat.ofDigitChars 10 digits.value 0, digits.text, digits.rest⟩

def scanInteger? : Text → Option (Taken Int)
  | '-' :: rest => (scanDigits? rest).map (Taken.behind '-' fun (n : Nat) => -(n : Int))
  | '+' :: rest => (scanDigits? rest).map (Taken.behind '+' fun (n : Nat) => (n : Int))
  | input => (scanDigits? input).map fun digits => ⟨digits.value, digits.text, digits.rest⟩

/-- The exponent. One without digits is none, and then its letter is left over. -/
def scanExponent : Text → Taken Int
  | c :: rest =>
    if c = 'e' ∨ c = 'E' then
      match scanInteger? rest with
      | some exponent => exponent.behind c id
      | none => ⟨0, [], c :: rest⟩
    else ⟨0, [], c :: rest⟩
  | [] => ⟨0, [], []⟩

def scan? (input : Text) : Option (Taken Decimal) :=
  let whole := Taken.run Char.isDigit input
  let fraction := scanFraction whole.rest
  if whole.value = [] ∧ fraction.value = [] then none
  else
    let exponent := scanExponent fraction.rest
    let digits := Nat.ofDigitChars 10 (whole.value ++ fraction.value) 0
    some ⟨⟨digits, exponent.value - fraction.value.length⟩,
      whole.text ++ fraction.text ++ exponent.text, exponent.rest⟩

def read? (text : Text) : Option Decimal :=
  match scan? text with
  | some numeral => if numeral.rest = [] then some numeral.value else none
  | none => none

theorem scanFraction_splits (input : Text) : (scanFraction input).Splits input := by
  unfold scanFraction
  split
  · exact Taken.behind_splits '.' id (Taken.run_splits _ _)
  · rfl

theorem scanDigits?_splits {input : Text} {taken : Taken Nat}
    (scanned : scanDigits? input = some taken) : taken.Splits input := by
  simp only [scanDigits?] at scanned
  split at scanned
  · cases scanned
  · cases scanned
    exact Taken.run_splits Char.isDigit input

theorem scanInteger?_splits {input : Text} {taken : Taken Int}
    (scanned : scanInteger? input = some taken) : taken.Splits input := by
  unfold scanInteger? at scanned
  split at scanned <;>
    obtain ⟨digits, found, rfl⟩ := Option.map_eq_some_iff.mp scanned
  · exact Taken.behind_splits _ _ (scanDigits?_splits found)
  · exact Taken.behind_splits _ _ (scanDigits?_splits found)
  · exact scanDigits?_splits found

theorem scanExponent_splits (input : Text) : (scanExponent input).Splits input := by
  unfold scanExponent
  split
  · split
    · split
      · rename_i found
        exact Taken.behind_splits _ _ (scanInteger?_splits found)
      · rfl
    · rfl
  · rfl

theorem scan?_splits {input : Text} {taken : Taken Decimal} (scanned : scan? input = some taken) :
    taken.Splits input := by
  simp only [scan?] at scanned
  split at scanned
  · cases scanned
  · cases scanned
    have whole := Taken.run_splits Char.isDigit input
    have fraction := scanFraction_splits (Taken.run Char.isDigit input).rest
    have exponent := scanExponent_splits (scanFraction (Taken.run Char.isDigit input).rest).rest
    simp only [Taken.Splits] at whole fraction exponent ⊢
    rw [List.append_assoc, exponent, List.append_assoc, fraction, whole]

theorem scan?_text_ne_nil {input : Text} {taken : Taken Decimal}
    (scanned : scan? input = some taken) : taken.text ≠ [] := by
  simp only [scan?] at scanned
  split at scanned
  · cases scanned
  · rename_i digit
    cases scanned
    intro none
    simp only [List.append_eq_nil_iff] at none
    refine digit ⟨none.1.1, ?_⟩
    have empty := none.1.2
    unfold scanFraction at empty ⊢
    split at empty
    · cases empty
    · rfl

end Decimal

namespace Binary64

def readWord? (negative : Bool) (text : Text) : Option Binary64 :=
  let word := text.map Char.toLower
  if word = "inf".toList ∨ word = "infinity".toList then some (.infinite negative)
  else if word = "nan".toList then some .nan
  else none

def readUnsigned? (negative : Bool) (text : Text) : Option Binary64 :=
  match Decimal.read? text with
  | some d => some (d.toBinary64 negative)
  | none => readWord? negative text

def read? : Text → Option Binary64
  | '-' :: rest => readUnsigned? true rest
  | '+' :: rest => readUnsigned? false rest
  | text => readUnsigned? false text

end Binary64
end DiagramScript
