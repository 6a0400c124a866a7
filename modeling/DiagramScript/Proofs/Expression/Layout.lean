import DiagramScript.Expression.Lexeme
import DiagramScript.Proofs.Expression.Positions

/-! Layout around an expression. A lexeme ends where layout begins, so layout behind an expression
adds no token, and layout in front of it only moves the tokens. -/
namespace DiagramScript

namespace Taken

def followed {α : Type} (taken : Taken α) (tail : Text) : Taken α :=
  ⟨taken.value, taken.text, taken.rest ++ tail⟩

theorem run_followed {p : Char → Bool} {tail : Text}
    (stops : ∀ c rest, tail = c :: rest → p c = false) (input : Text) :
    run p (input ++ tail) = (run p input).followed tail := by
  have parts : (input ++ tail).takeWhile p = input.takeWhile p ∧
      (input ++ tail).dropWhile p = input.dropWhile p ++ tail := by
    induction input with
    | nil =>
      rcases tail with _ | ⟨c, rest⟩
      · exact ⟨rfl, rfl⟩
      · simp [stops c rest rfl]
    | cons c input ih =>
      by_cases member : p c = true
      · simp [member, ih]
      · simp [member]
  simp only [run, followed, parts]

end Taken

/-- Text that no lexeme goes on with: none at all, or layout first. -/
def Apart (tail : Text) : Prop := ∀ c rest, tail = c :: rest → isLayout c = true

theorem isLayout_cases {c : Char} (layout : isLayout c = true) :
    c = ' ' ∨ c = '\t' ∨ c = '\x0c' ∨ c = '\r' ∨ c = '\n' := by
  simpa [isLayout, or_assoc] using layout

theorem isDigit_of_isLayout {c : Char} (layout : isLayout c = true) : c.isDigit = false := by
  rcases isLayout_cases layout with rfl | rfl | rfl | rfl | rfl <;> decide

theorem continuesName_of_startsName {c : Char} (starts : startsName c = true) :
    continuesName c = true := by
  simp only [startsName, Bool.or_eq_true] at starts
  simp only [continuesName, Char.isAlphanum, Bool.or_eq_true]
  exact starts.imp_left .inl

theorem continuesName_of_isLayout {c : Char} (layout : isLayout c = true) :
    continuesName c = false := by
  rcases isLayout_cases layout with rfl | rfl | rfl | rfl | rfl <;> decide

namespace Decimal

variable {tail : Text}

theorem scanFraction_followed (apart : Apart tail) (input : Text) :
    scanFraction (input ++ tail) = (scanFraction input).followed tail := by
  have digits := Taken.run_followed fun c rest same => isDigit_of_isLayout (apart c rest same)
  rcases input with _ | ⟨c, input⟩
  · rcases tail with _ | ⟨c, rest⟩
    · rfl
    · rcases isLayout_cases (apart c rest rfl) with rfl | rfl | rfl | rfl | rfl <;> rfl
  · by_cases point : c = '.'
    · subst point
      simp only [List.cons_append, scanFraction, digits input]
      rfl
    · simp [scanFraction, point, Taken.followed]

theorem scanDigits?_followed (apart : Apart tail) (input : Text) :
    scanDigits? (input ++ tail) = (scanDigits? input).map (·.followed tail) := by
  have digits := Taken.run_followed fun c rest same => isDigit_of_isLayout (apart c rest same)
  simp only [scanDigits?, digits input, Taken.followed]
  split <;> rfl

theorem scanInteger?_unsigned {c : Char} (minus : c ≠ '-') (plus : c ≠ '+') (input : Text) :
    scanInteger? (c :: input) =
      (scanDigits? (c :: input)).map fun digits => ⟨digits.value, digits.text, digits.rest⟩ := by
  unfold scanInteger?
  split
  · rename_i same
    cases same
    exact absurd rfl minus
  · rename_i same
    cases same
    exact absurd rfl plus
  · rfl

theorem scanInteger?_followed (apart : Apart tail) (input : Text) :
    scanInteger? (input ++ tail) = (scanInteger? input).map (·.followed tail) := by
  have digits := scanDigits?_followed apart
  rcases input with _ | ⟨c, input⟩
  · rcases tail with _ | ⟨c, rest⟩
    · rfl
    · rcases isLayout_cases (apart c rest rfl) with rfl | rfl | rfl | rfl | rfl <;> rfl
  · by_cases minus : c = '-'
    · subst minus
      simp only [List.cons_append, scanInteger?, digits input, Option.map_map]
      rfl
    · by_cases plus : c = '+'
      · subst plus
        simp only [List.cons_append, scanInteger?, digits input, Option.map_map]
        rfl
      · rw [scanInteger?_unsigned minus plus, List.cons_append, scanInteger?_unsigned minus plus,
          ← List.cons_append, digits (c :: input), Option.map_map, Option.map_map]
        rfl

theorem scanExponent_followed (apart : Apart tail) (input : Text) :
    scanExponent (input ++ tail) = (scanExponent input).followed tail := by
  rcases input with _ | ⟨c, input⟩
  · rcases tail with _ | ⟨c, rest⟩
    · rfl
    · rcases isLayout_cases (apart c rest rfl) with rfl | rfl | rfl | rfl | rfl <;> rfl
  · simp only [List.cons_append, scanExponent, scanInteger?_followed apart input]
    split
    · cases scanInteger? input <;> rfl
    · rfl

theorem scan?_followed (apart : Apart tail) (input : Text) :
    scan? (input ++ tail) = (scan? input).map (·.followed tail) := by
  have digits := Taken.run_followed fun c rest same => isDigit_of_isLayout (apart c rest same)
  simp only [scan?, digits input, Taken.followed, scanFraction_followed apart,
    scanExponent_followed apart]
  split <;> rfl

theorem scan?_of_isLayout {c : Char} (layout : isLayout c = true) (rest : Text) :
    scan? (c :: rest) = none := by
  rcases isLayout_cases layout with rfl | rfl | rfl | rfl | rfl <;> rfl

end Decimal

namespace Lexeme

variable {tail : Text}

theorem scanFixed?_followed (apart : Apart tail) {c : Char} (input : Text) :
    scanFixed? (c :: input ++ tail) = (scanFixed? (c :: input)).map (·.followed tail) := by
  by_cases star : c = '*'
  · subst star
    rcases input with _ | ⟨c', input⟩
    · rcases tail with _ | ⟨c', rest⟩
      · rfl
      · rcases isLayout_cases (apart c' rest rfl) with rfl | rfl | rfl | rfl | rfl <;> rfl
    · by_cases star' : c' = '*'
      · subst star'
        rfl
      · simp [scanFixed?, star', Taken.followed]
  · unfold scanFixed?
    split <;> simp_all [Taken.followed]

theorem scanRun?_followed (apart : Apart tail) {c : Char} (solid : isLayout c = false)
    (input : Text) :
    scanRun? (c :: input ++ tail) = (scanRun? (c :: input)).map (·.followed tail) := by
  have names := Taken.run_followed
    (fun c rest same => continuesName_of_isLayout (apart c rest same)) input
  simp only [List.cons_append, scanRun?, names, solid]
  split <;> rfl

theorem scan?_followed (apart : Apart tail) {c : Char} (solid : isLayout c = false)
    (input : Text) : scan? (c :: input ++ tail) = (scan? (c :: input)).map (·.followed tail) := by
  simp only [scan?, Decimal.scan?_followed apart (c :: input), scanFixed?_followed apart input,
    scanRun?_followed apart solid input]
  cases Decimal.scan? (c :: input) with
  | some numeral => rfl
  | none => cases scanFixed? (c :: input) <;> rfl

theorem scan?_of_isLayout {c : Char} (layout : isLayout c = true) (rest : Text) :
    scan? (c :: rest) = some ⟨none, c :: rest.takeWhile isLayout, rest.dropWhile isLayout⟩ := by
  simp only [scan?, Decimal.scan?_of_isLayout layout]
  rcases isLayout_cases layout with rfl | rfl | rfl | rfl | rfl <;> rfl

end Lexeme

theorem tokenizeFrom_of_none {position : Nat} {c : Char} {rest : Text}
    (scanned : Lexeme.scan? (c :: rest) = none) :
    tokenizeFrom position (c :: rest) = .error (.unexpectedCharacter c position) := by
  rw [tokenizeFrom]
  split
  · rfl
  · rename_i found
    rw [scanned] at found
    cases found

theorem tokenizeFrom_of_some {position : Nat} {c : Char} {rest : Text} {lexeme : Lexeme}
    (scanned : Lexeme.scan? (c :: rest) = some lexeme) :
    tokenizeFrom position (c :: rest) =
      (tokenizeFrom (position + Text.byteLength lexeme.text) lexeme.rest).map fun tokens =>
        (lexeme.value.map (⟨·, position⟩)).toList ++ tokens := by
  rw [tokenizeFrom]
  split
  · rename_i found
    rw [scanned] at found
    cases found
  · rename_i lexeme' found
    rw [scanned] at found
    cases found
    cases tokenizeFrom (position + Text.byteLength lexeme.text) lexeme.rest <;> rfl

theorem tokenizeFrom_eq_ok {position : Nat} {c : Char} {rest : Text} {tokens : List Placed}
    (tokenized : tokenizeFrom position (c :: rest) = .ok tokens) :
    ∃ lexeme others, Lexeme.scan? (c :: rest) = some lexeme ∧
      tokenizeFrom (position + Text.byteLength lexeme.text) lexeme.rest = .ok others ∧
      tokens = (lexeme.value.map (⟨·, position⟩)).toList ++ others := by
  cases scanned : Lexeme.scan? (c :: rest) with
  | none =>
    rw [tokenizeFrom_of_none scanned] at tokenized
    cases tokenized
  | some lexeme =>
    rw [tokenizeFrom_of_some scanned] at tokenized
    cases later : tokenizeFrom (position + Text.byteLength lexeme.text) lexeme.rest with
    | error cause =>
      rw [later] at tokenized
      cases tokenized
    | ok others =>
      rw [later] at tokenized
      cases tokenized
      exact ⟨lexeme, others, rfl, later, rfl⟩

theorem tokenizeFrom_eq_error {position : Nat} {c : Char} {rest : Text} {cause : ExpressionError}
    (refused : tokenizeFrom position (c :: rest) = .error cause) :
    Lexeme.scan? (c :: rest) = none ∧ cause = .unexpectedCharacter c position ∨
      ∃ lexeme, Lexeme.scan? (c :: rest) = some lexeme ∧
        tokenizeFrom (position + Text.byteLength lexeme.text) lexeme.rest = .error cause := by
  cases scanned : Lexeme.scan? (c :: rest) with
  | none =>
    rw [tokenizeFrom_of_none scanned] at refused
    cases refused
    exact .inl ⟨rfl, rfl⟩
  | some lexeme =>
    rw [tokenizeFrom_of_some scanned] at refused
    cases later : tokenizeFrom (position + Text.byteLength lexeme.text) lexeme.rest with
    | error cause' =>
      rw [later] at refused
      cases refused
      exact .inr ⟨lexeme, rfl, later⟩
    | ok others =>
      rw [later] at refused
      cases refused

theorem tokenizeFrom_skip (position : Nat) (text : Text) :
    tokenizeFrom position text =
      tokenizeFrom (position + Text.byteLength (text.takeWhile isLayout))
        (text.dropWhile isLayout) := by
  rcases text with _ | ⟨c, rest⟩
  · rfl
  · by_cases layout : isLayout c = true
    · rw [tokenizeFrom_of_some (Lexeme.scan?_of_isLayout layout rest),
        List.takeWhile_cons_of_pos layout, List.dropWhile_cons_of_pos layout]
      dsimp only
      cases tokenizeFrom _ (rest.dropWhile isLayout) <;> rfl
    · rw [List.takeWhile_cons_of_neg layout, List.dropWhile_cons_of_neg layout]
      rfl

theorem tokenizeFrom_layout_append {lead : Text} (layout : ∀ c ∈ lead, isLayout c = true)
    (position : Nat) (text : Text) :
    tokenizeFrom position (lead ++ text) =
      tokenizeFrom (position + Text.byteLength lead) text := by
  rw [tokenizeFrom_skip position, tokenizeFrom_skip (position + Text.byteLength lead),
    List.takeWhile_append_of_pos layout, List.dropWhile_append_of_pos layout,
    Text.byteLength_append, Nat.add_assoc]

theorem tokenizeFrom_append_layout {tail : Text} (layout : ∀ c ∈ tail, isLayout c = true)
    (position : Nat) (text : Text) :
    tokenizeFrom position (text ++ tail) = tokenizeFrom position text := by
  have apart : Apart tail := by
    rintro c rest rfl
    exact layout c List.mem_cons_self
  induction size : text.length using Nat.strongRecOn generalizing position text with
  | _ size ih =>
    rcases text with _ | ⟨c, rest⟩
    · have none := tokenizeFrom_layout_append layout position []
      rw [List.append_nil] at none
      rw [List.nil_append, none, tokenizeFrom, tokenizeFrom]
    · by_cases space : isLayout c = true
      · have spaces : ∀ c' ∈ [c], isLayout c' = true := by simpa using space
        have moved (text : Text) := tokenizeFrom_layout_append spaces position text
        rw [List.singleton_append.symm, List.append_assoc, moved, moved]
        exact ih rest.length (by rw [← size]; exact Nat.lt_succ_self _) _ _ rfl
      · have followed := Lexeme.scan?_followed apart (by simpa using space) rest
        cases scanned : Lexeme.scan? (c :: rest) with
        | none =>
          rw [scanned] at followed
          rw [tokenizeFrom_of_none scanned]
          exact tokenizeFrom_of_none followed
        | some lexeme =>
          rw [scanned] at followed
          have shorter := Lexeme.rest_shorter scanned
          have longer : tokenizeFrom position (c :: rest ++ tail) = _ :=
            tokenizeFrom_of_some followed
          rw [longer, tokenizeFrom_of_some scanned]
          simp only [Taken.followed]
          rw [ih _ (by rwa [← size]) _ lexeme.rest rfl]

theorem tokenizeFrom_forget (position position' : Nat) (text : Text) :
    forget (List.map Placed.unplaced) (tokenizeFrom position text) =
      forget (List.map Placed.unplaced) (tokenizeFrom position' text) := by
  induction size : text.length using Nat.strongRecOn
    generalizing position position' text with
  | _ size ih =>
    rcases text with _ | ⟨c, rest⟩
    · simp only [tokenizeFrom]
    · cases scanned : Lexeme.scan? (c :: rest) with
      | none =>
        rw [tokenizeFrom_of_none scanned, tokenizeFrom_of_none scanned]
        rfl
      | some lexeme =>
        have shorter := Lexeme.rest_shorter scanned
        have same := ih _ (by rwa [← size]) (position + Text.byteLength lexeme.text)
          (position' + Text.byteLength lexeme.text) lexeme.rest rfl
        rw [tokenizeFrom_of_some scanned, tokenizeFrom_of_some scanned]
        revert same
        cases tokenizeFrom (position + Text.byteLength lexeme.text) lexeme.rest <;>
          cases tokenizeFrom (position' + Text.byteLength lexeme.text) lexeme.rest
        · exact id
        · intro same
          cases same
        · intro same
          cases same
        · intro same
          have tokens := Except.ok.inj same
          cases lexeme.value with
          | none => exact same
          | some token => simp [forget, Except.map, tokens, Placed.unplaced]

theorem tokenize_between_layout {lead tail : Text} (before : ∀ c ∈ lead, isLayout c = true)
    (after : ∀ c ∈ tail, isLayout c = true) (text : Text) :
    forget (List.map Placed.unplaced) (tokenize (lead ++ (text ++ tail))) =
      forget (List.map Placed.unplaced) (tokenize text) := by
  rw [tokenize, tokenizeFrom_layout_append before, tokenizeFrom_append_layout after]
  exact tokenizeFrom_forget _ _ text

end DiagramScript
