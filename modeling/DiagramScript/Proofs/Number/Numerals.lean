import DiagramScript.Proofs.Expression.Layout
import Mathlib.Data.List.TakeWhile

/-! Numerals as a class of texts, apart from any way to find them. What the scanner of numerals
takes is one (`Decimal.numeral_of_scan?`), and it takes any that a text starts with, or a longer one
(`Decimal.scan?_reaches`). So a numeral on its own is read as the number nearest to what it stands
for (`Binary64.read?_of_numeral`). -/
namespace DiagramScript

namespace Taken

variable {α : Type} {p : Char → Bool} {piece rest : Text}

/-- What is taken from a piece that more follows: the piece with its value, or something longer. -/
def Reaches (taken : Taken α) (value : α) (piece rest : Text) : Prop :=
  piece.length < taken.text.length ∨ taken = ⟨value, piece, rest⟩

theorem run_append (inside : ∀ c ∈ piece, p c = true) :
    run p (piece ++ rest) =
      ⟨piece ++ rest.takeWhile p, piece ++ rest.takeWhile p, rest.dropWhile p⟩ := by
  rw [run, List.takeWhile_append_of_pos inside, List.dropWhile_append_of_pos inside]

theorem run_stops {c : Char} (inside : ∀ c ∈ piece, p c = true) (outside : p c = false) :
    run p (piece ++ c :: rest) = ⟨piece, piece, c :: rest⟩ := by
  simp [run_append inside, outside]

theorem run_reaches (inside : ∀ c ∈ piece, p c = true) (rest : Text) :
    (run p (piece ++ rest)).Reaches piece piece rest := by
  rw [run_append inside]
  rcases rest with _ | ⟨c, rest⟩
  · exact .inr (by simp)
  · by_cases more : p c = true
    · exact .inl (by simp [more])
    · exact .inr (by simp [more])

theorem Reaches.behind {β : Type} {taken : Taken α} {value : α}
    (reached : taken.Reaches value piece rest) (c : Char) (f : α → β) :
    (taken.behind c f).Reaches (f value) (c :: piece) rest := by
  rcases reached with longer | rfl
  · exact .inl (by simpa [Taken.behind] using longer)
  · exact .inr rfl

end Taken

namespace Decimal

def Digits (text : Text) : Prop := ∀ c ∈ text, c.isDigit = true

inductive Integer : Text → Int → Prop
  | unsigned {digits} : Digits digits → digits ≠ [] →
      Integer digits (Nat.ofDigitChars 10 digits 0 : Nat)
  | plus {digits} : Digits digits → digits ≠ [] →
      Integer ('+' :: digits) (Nat.ofDigitChars 10 digits 0 : Nat)
  | minus {digits} : Digits digits → digits ≠ [] →
      Integer ('-' :: digits) (-(Nat.ofDigitChars 10 digits 0 : Nat))

inductive Exponent : Text → Int → Prop
  | none : Exponent [] 0
  | some {letter text e} : letter = 'e' ∨ letter = 'E' → Integer text e →
      Exponent (letter :: text) e

/-- Numerals and what they stand for: digits with at most one point among or beside them, and an
exponent. -/
inductive Numeral : Text → Decimal → Prop
  | whole {digits exponent e} : Digits digits → digits ≠ [] → Exponent exponent e →
      Numeral (digits ++ exponent) ⟨Nat.ofDigitChars 10 digits 0, e⟩
  | pointed {whole fraction exponent e} : Digits whole → Digits fraction →
      whole ≠ [] ∨ fraction ≠ [] → Exponent exponent e →
      Numeral (whole ++ '.' :: (fraction ++ exponent))
        ⟨Nat.ofDigitChars 10 (whole ++ fraction) 0, e - fraction.length⟩

variable {text input rest : Text} {d : Decimal} {e : Int}

theorem digits_run (input : Text) : Digits (Taken.run Char.isDigit input).text :=
  fun _ member => List.mem_takeWhile_imp member

theorem scanDigits?_eq_some {taken : Taken Nat} (scanned : scanDigits? input = some taken) :
    Digits taken.text ∧ taken.text ≠ [] ∧ taken.value = Nat.ofDigitChars 10 taken.text 0 := by
  simp only [scanDigits?] at scanned
  split at scanned
  · cases scanned
  · rename_i some
    cases scanned
    exact ⟨digits_run input, some, rfl⟩

theorem integer_of_scanInteger? {taken : Taken Int} (scanned : scanInteger? input = some taken) :
    Integer taken.text taken.value := by
  unfold scanInteger? at scanned
  split at scanned <;>
    obtain ⟨digits, found, rfl⟩ := Option.map_eq_some_iff.mp scanned <;>
    obtain ⟨inside, some, value⟩ := scanDigits?_eq_some found
  · rw [Taken.behind, value]
    exact .minus inside some
  · rw [Taken.behind, value]
    exact .plus inside some
  · rw [value]
    exact .unsigned inside some

theorem exponent_of_scanExponent (input : Text) :
    Exponent (scanExponent input).text (scanExponent input).value := by
  unfold scanExponent
  split
  · split
    · rename_i letter
      split
      · rename_i found
        exact .some letter (integer_of_scanInteger? found)
      · exact .none
    · exact .none
  · exact .none

theorem scanFraction_cases (input : Text) :
    scanFraction input = ⟨[], [], input⟩ ∨
      Digits (scanFraction input).value ∧
        (scanFraction input).text = '.' :: (scanFraction input).value := by
  unfold scanFraction
  split
  · exact .inr ⟨digits_run _, rfl⟩
  · exact .inl rfl

theorem numeral_of_scan? {taken : Taken Decimal} (scanned : scan? input = some taken) :
    Numeral taken.text taken.value := by
  simp only [scan?] at scanned
  split at scanned
  · cases scanned
  · rename_i digit
    cases scanned
    have whole : Digits (Taken.run Char.isDigit input).text := digits_run input
    have exponent :=
      exponent_of_scanExponent (scanFraction (Taken.run Char.isDigit input).rest).rest
    rcases scanFraction_cases (Taken.run Char.isDigit input).rest with none | ⟨fraction, text⟩
    · rw [none] at digit exponent ⊢
      simp only [and_true, List.append_nil] at digit ⊢
      simpa using .whole whole digit exponent
    · rw [text, List.append_assoc, List.cons_append]
      exact .pointed whole fraction (by rwa [not_and_or] at digit) exponent

theorem isDigit_of_letter {c : Char} (letter : c = 'e' ∨ c = 'E') : c.isDigit = false := by
  rcases letter with rfl | rfl <;> rfl

section Reaches

variable (rest : Text)

theorem scanDigits?_reaches {digits : Text} (inside : Digits digits) (given : digits ≠ []) :
    ∃ taken, scanDigits? (digits ++ rest) = some taken ∧
      taken.Reaches (Nat.ofDigitChars 10 digits 0) digits rest := by
  have found : (Taken.run Char.isDigit (digits ++ rest)).value ≠ [] := by
    simp [Taken.run_append inside, given]
  rw [scanDigits?, if_neg found]
  refine ⟨_, rfl, ?_⟩
  rcases Taken.run_reaches inside rest with longer | same
  · exact .inl longer
  · rw [same]
    exact .inr rfl

theorem scanInteger?_reaches {text : Text} {n : Int} (integer : Integer text n) :
    ∃ taken, scanInteger? (text ++ rest) = some taken ∧ taken.Reaches n text rest := by
  cases integer with
  | unsigned inside given =>
    obtain ⟨c, text, rfl⟩ := List.exists_cons_of_ne_nil given
    have digit := inside c List.mem_cons_self
    obtain ⟨taken, scanned, reached⟩ := scanDigits?_reaches rest inside given
    rw [List.cons_append] at scanned ⊢
    rw [scanInteger?_unsigned (by rintro rfl; cases digit) (by rintro rfl; cases digit), scanned]
    refine ⟨_, rfl, ?_⟩
    rcases reached with longer | rfl
    · exact .inl longer
    · exact .inr rfl
  | plus inside given =>
    obtain ⟨taken, scanned, reached⟩ := scanDigits?_reaches rest inside given
    rw [List.cons_append, scanInteger?, scanned]
    exact ⟨_, rfl, reached.behind '+' _⟩
  | minus inside given =>
    obtain ⟨taken, scanned, reached⟩ := scanDigits?_reaches rest inside given
    rw [List.cons_append, scanInteger?, scanned]
    exact ⟨_, rfl, reached.behind '-' _⟩

theorem scanExponent_reaches {text : Text} {e : Int} (exponent : Exponent text e) :
    (scanExponent (text ++ rest)).Reaches e text rest := by
  cases exponent with
  | none =>
    rw [List.nil_append]
    unfold scanExponent
    split
    · split
      · split
        · exact .inl (Nat.succ_pos _)
        · exact .inr rfl
      · exact .inr rfl
    · exact .inr rfl
  | some letter integer =>
    obtain ⟨taken, scanned, reached⟩ := scanInteger?_reaches rest integer
    rw [List.cons_append, scanExponent, if_pos letter, scanned]
    exact reached.behind _ id

/-- Digits in front of an exponent are all that is taken of them, unless the exponent is missing. -/
theorem run_before_exponent {digits exponent : Text} (inside : Digits digits)
    (exponential : Exponent exponent e) :
    Taken.run Char.isDigit (digits ++ (exponent ++ rest)) = ⟨digits, digits, exponent ++ rest⟩ ∨
      exponent = [] ∧
        digits.length < (Taken.run Char.isDigit (digits ++ (exponent ++ rest))).text.length := by
  cases exponential with
  | none =>
    rcases Taken.run_reaches inside rest with longer | same
    · exact .inr ⟨rfl, longer⟩
    · exact .inl same
  | some letter integer => exact .inl (Taken.run_stops inside (isDigit_of_letter letter))

theorem scanFraction_before_exponent {exponent : Text} (exponential : Exponent exponent e) :
    scanFraction (exponent ++ rest) = ⟨[], [], exponent ++ rest⟩ ∨
      exponent = [] ∧ 0 < (scanFraction (exponent ++ rest)).text.length := by
  cases exponential with
  | none =>
    rcases scanFraction_cases rest with none | ⟨_, point⟩
    · exact .inl none
    · exact .inr ⟨rfl, by simp [point]⟩
  | some letter integer =>
    rcases letter with rfl | rfl <;> exact .inl rfl

theorem scan?_eq_some {whole fraction : Taken Text} (digits : Taken.run Char.isDigit input = whole)
    (behind : scanFraction whole.rest = fraction) (digit : whole.value ≠ [] ∨ fraction.value ≠ []) :
    scan? input = some ⟨⟨Nat.ofDigitChars 10 (whole.value ++ fraction.value) 0,
      (scanExponent fraction.rest).value - fraction.value.length⟩,
      whole.text ++ fraction.text ++ (scanExponent fraction.rest).text,
      (scanExponent fraction.rest).rest⟩ := by
  rw [← not_and_or] at digit
  simp only [scan?, digits, behind, if_neg digit]

theorem reaches_of_exponent {exponent : Text} (exponential : Exponent exponent e) (n k : Nat)
    (front : Text) :
    Taken.Reaches ⟨⟨n, (scanExponent (exponent ++ rest)).value - k⟩,
      front ++ (scanExponent (exponent ++ rest)).text, (scanExponent (exponent ++ rest)).rest⟩
      (⟨n, e - k⟩ : Decimal) (front ++ exponent) rest := by
  rcases scanExponent_reaches rest exponential with longer | same
  · exact .inl (by simpa using longer)
  · rw [same]
    exact .inr rfl

theorem scan?_reaches (numeral : Numeral text d) :
    ∃ taken, scan? (text ++ rest) = some taken ∧ taken.Reaches d text rest := by
  cases numeral with
  | @whole digits exponent e inside given exponential =>
    rw [List.append_assoc]
    rcases run_before_exponent rest inside exponential with stops | ⟨rfl, longer⟩
    · refine ⟨_, scan?_eq_some stops rfl (.inl given), ?_⟩
      rcases scanFraction_before_exponent rest exponential with none | ⟨rfl, longer⟩
      · simpa [none] using
          reaches_of_exponent rest exponential (Nat.ofDigitChars 10 digits 0) 0 digits
      · refine .inl ?_
        simp only [List.length_append, List.length_nil]
        omega
    · have digit : (Taken.run Char.isDigit (digits ++ ([] ++ rest))).value ≠ [] :=
        List.ne_nil_of_length_pos (Nat.zero_lt_of_lt longer)
      refine ⟨_, scan?_eq_some rfl rfl (.inl digit), .inl ?_⟩
      simp only [List.length_append, List.length_nil] at longer ⊢
      omega
  | @pointed whole fraction exponent e before inside given exponential =>
    have stops : Taken.run Char.isDigit (whole ++ '.' :: (fraction ++ (exponent ++ rest))) =
        ⟨whole, whole, '.' :: (fraction ++ (exponent ++ rest))⟩ :=
      Taken.run_stops before rfl
    rw [List.append_assoc, List.cons_append, List.append_assoc]
    rcases run_before_exponent rest inside exponential with stops' | ⟨rfl, longer⟩
    · have point : scanFraction ('.' :: (fraction ++ (exponent ++ rest))) =
          ⟨fraction, '.' :: fraction, exponent ++ rest⟩ := by
        rw [scanFraction, stops']
        rfl
      refine ⟨_, scan?_eq_some stops point given, ?_⟩
      simpa using reaches_of_exponent rest exponential
        (Nat.ofDigitChars 10 (whole ++ fraction) 0) fraction.length (whole ++ '.' :: fraction)
    · have digit : (scanFraction ('.' :: (fraction ++ ([] ++ rest)))).value ≠ [] :=
        List.ne_nil_of_length_pos (Nat.zero_lt_of_lt longer)
      refine ⟨_, scan?_eq_some stops rfl (.inr digit), .inl ?_⟩
      simp only [scanFraction, Taken.behind, List.length_append, List.length_cons,
        List.length_nil] at longer ⊢
      omega

end Reaches

theorem read?_of_numeral (numeral : Numeral text d) : read? text = some d := by
  obtain ⟨taken, scanned, longer | rfl⟩ := scan?_reaches [] numeral
  · have size := congrArg List.length (scan?_splits scanned)
    simp only [List.length_append, List.length_nil] at size
    omega
  · rw [List.append_nil] at scanned
    simp [read?, scanned]

theorem numeral_of_read? (read : read? text = some d) :
    Numeral text d := by
  unfold read? at read
  split at read
  · rename_i taken scanned
    split at read
    · rename_i whole
      cases read
      have splits := scan?_splits scanned
      rw [Taken.Splits, whole, List.append_nil] at splits
      rw [← splits]
      exact numeral_of_scan? scanned
    · cases read
  · cases read

theorem numeral_head (numeral : Numeral text d) :
    ∃ c rest, text = c :: rest ∧ (c.isDigit = true ∨ c = '.') := by
  cases numeral with
  | whole inside given =>
    obtain ⟨c, digits, rfl⟩ := List.exists_cons_of_ne_nil given
    exact ⟨c, _, rfl, .inl (inside c List.mem_cons_self)⟩
  | @pointed digits _ _ _ before =>
    cases digits with
    | nil => exact ⟨'.', _, rfl, .inr rfl⟩
    | cons c digits => exact ⟨c, _, rfl, .inl (before c List.mem_cons_self)⟩

theorem integer_characters {n : Int} (integer : Integer text n) :
    ∀ c ∈ text, c.isDigit = true ∨ c ∈ ['+', '-', '.', 'e', 'E'] := by
  cases integer with
  | unsigned inside => exact fun c member => .inl (inside c member)
  | plus inside | minus inside =>
    exact List.forall_mem_cons.mpr ⟨.inr (by simp), fun c member => .inl (inside c member)⟩

theorem exponent_characters (exponent : Exponent text e) :
    ∀ c ∈ text, c.isDigit = true ∨ c ∈ ['+', '-', '.', 'e', 'E'] := by
  cases exponent with
  | none => exact List.forall_mem_nil _
  | some letter integer =>
    refine List.forall_mem_cons.mpr ⟨.inr ?_, integer_characters integer⟩
    rcases letter with rfl | rfl <;> simp

theorem numeral_characters (numeral : Numeral text d) :
    ∀ c ∈ text, c.isDigit = true ∨ c ∈ ['+', '-', '.', 'e', 'E'] := by
  cases numeral with
  | whole inside _ exponent =>
    exact List.forall_mem_append.mpr
      ⟨fun c member => .inl (inside c member), exponent_characters exponent⟩
  | pointed before inside _ exponent =>
    refine List.forall_mem_append.mpr ⟨fun c member => .inl (before c member), ?_⟩
    refine List.forall_mem_cons.mpr ⟨.inr (by simp), List.forall_mem_append.mpr ⟨?_, ?_⟩⟩
    · exact fun c member => .inl (inside c member)
    · exact exponent_characters exponent

theorem numeral_ne_sign {c : Char} {others : Text} (numeral : Numeral (c :: others) d) :
    c ≠ '-' ∧ c ≠ '+' := by
  obtain ⟨c', rest, same, start⟩ := numeral_head numeral
  cases same
  constructor <;> rintro rfl <;> rcases start with digit | point
  · cases digit
  · cases point
  · cases digit
  · cases point

end Decimal

namespace Binary64

variable {text : Text} {d : Decimal}

theorem readUnsigned?_of_numeral (negative : Bool) (numeral : Decimal.Numeral text d) :
    readUnsigned? negative text = some (d.toBinary64 negative) := by
  rw [readUnsigned?, Decimal.read?_of_numeral numeral]

theorem read?_of_numeral (numeral : Decimal.Numeral text d) :
    read? text = some (d.toBinary64 false) := by
  unfold read?
  split
  · exact absurd rfl (Decimal.numeral_ne_sign numeral).1
  · exact absurd rfl (Decimal.numeral_ne_sign numeral).2
  · exact readUnsigned?_of_numeral false numeral

end Binary64
end DiagramScript
