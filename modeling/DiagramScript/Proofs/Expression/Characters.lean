import DiagramScript.Proofs.Expression.Layout
import DiagramScript.Proofs.Grammar.Soundness
import DiagramScript.Proofs.Text.Trim

/-! The characters of expressions. A text has tokens only if all of its characters belong to some
lexeme, and a value only if none of them is a comma: commas stand between the arguments of a call,
and every function takes one argument. -/
namespace DiagramScript

def continuesNumeral (c : Char) : Bool :=
  c.isDigit || "+-.eE".toList.contains c

def spells (c : Char) : Bool :=
  isLayout c || continuesName c || "+-*/^().,".toList.contains c

theorem continuesNumeral_of_isDigit {c : Char} (digit : c.isDigit = true) :
    continuesNumeral c = true := by
  simp [continuesNumeral, digit]

theorem spells_of_continuesNumeral {c : Char} (numeral : continuesNumeral c = true) :
    spells c = true ∧ c ≠ ',' := by
  simp only [continuesNumeral, Bool.or_eq_true] at numeral
  rcases numeral with digit | sign
  · refine ⟨by simp [spells, continuesName, Char.isAlphanum, digit], ?_⟩
    rintro rfl
    cases digit
  · have signs : c = '+' ∨ c = '-' ∨ c = '.' ∨ c = 'e' ∨ c = 'E' := by simpa using sign
    rcases signs with rfl | rfl | rfl | rfl | rfl <;> decide

theorem spells_of_continuesName {c : Char} (name : continuesName c = true) :
    spells c = true ∧ c ≠ ',' := by
  refine ⟨by simp [spells, name], ?_⟩
  rintro rfl
  cases name

theorem spells_of_startsName {c : Char} (name : startsName c = true) :
    spells c = true ∧ c ≠ ',' :=
  spells_of_continuesName (continuesName_of_startsName name)

theorem spells_of_isLayout {c : Char} (layout : isLayout c = true) :
    spells c = true ∧ c ≠ ',' := by
  rcases isLayout_cases layout with rfl | rfl | rfl | rfl | rfl <;> decide

theorem isLayout_of_spells {c : Char} (spelled : spells c = true) (blank : isBlank c = true) :
    isLayout c = true := by
  simp only [spells, Bool.or_eq_true] at spelled
  rcases spelled with (layout | name) | symbol
  · exact layout
  · exfalso
    have code : c.toNat = 95 ∨ (65 ≤ c.toNat ∧ c.toNat ≤ 90) ∨ (97 ≤ c.toNat ∧ c.toNat ≤ 122) ∨
        (48 ≤ c.toNat ∧ c.toNat ≤ 57) := by
      unfold continuesName Char.isAlphanum Char.isAlpha Char.isUpper Char.isLower
        Char.isDigit at name
      simp only [Bool.or_eq_true, Bool.and_eq_true, decide_eq_true_eq, beq_iff_eq,
        UInt32.le_iff_toNat_le, ge_iff_le] at name
      change (((65 ≤ c.toNat ∧ c.toNat ≤ 90) ∨ (97 ≤ c.toNat ∧ c.toNat ≤ 122)) ∨
        (48 ≤ c.toNat ∧ c.toNat ≤ 57)) ∨ c = '_' at name
      rcases name with letter | rfl
      · omega
      · decide
    simp [isBlank, CharRanges.contains, blankRanges] at blank
    omega
  · have symbols : c = '+' ∨ c = '-' ∨ c = '*' ∨ c = '/' ∨ c = '^' ∨ c = '(' ∨ c = ')' ∨
        c = '.' ∨ c = ',' := by simpa using symbol
    rcases symbols with rfl | rfl | rfl | rfl | rfl | rfl | rfl | rfl | rfl <;> cases blank

theorem isBlank_of_continuesName {c : Char} (name : continuesName c = true) :
    isBlank c = false := by
  rw [← Bool.not_eq_true]
  intro blank
  have layout := isLayout_of_spells (spells_of_continuesName name).1 blank
  rw [continuesName_of_isLayout layout] at name
  cases name

namespace Decimal

theorem scanFraction_text (input : Text) :
    ∀ c ∈ (scanFraction input).text, continuesNumeral c = true := by
  unfold scanFraction
  split
  · intro c member
    rcases List.mem_cons.mp member with rfl | digit
    · decide
    · exact continuesNumeral_of_isDigit (List.mem_takeWhile_imp digit)
  · simp

theorem scanDigits?_text {input : Text} {taken : Taken Nat}
    (scanned : scanDigits? input = some taken) : ∀ c ∈ taken.text, continuesNumeral c = true := by
  simp only [scanDigits?] at scanned
  split at scanned
  · cases scanned
  · cases scanned
    exact fun c digit => continuesNumeral_of_isDigit (List.mem_takeWhile_imp digit)

theorem scanInteger?_text {input : Text} {taken : Taken Int}
    (scanned : scanInteger? input = some taken) : ∀ c ∈ taken.text, continuesNumeral c = true := by
  unfold scanInteger? at scanned
  split at scanned <;> obtain ⟨digits, found, rfl⟩ := Option.map_eq_some_iff.mp scanned
  · exact List.forall_mem_cons.mpr ⟨by decide, scanDigits?_text found⟩
  · exact List.forall_mem_cons.mpr ⟨by decide, scanDigits?_text found⟩
  · exact scanDigits?_text found

theorem scanExponent_text (input : Text) :
    ∀ c ∈ (scanExponent input).text, continuesNumeral c = true := by
  unfold scanExponent
  split
  · split
    · rename_i letter
      split
      · rename_i found
        refine List.forall_mem_cons.mpr ⟨?_, scanInteger?_text found⟩
        rcases letter with rfl | rfl <;> decide
      · simp
    · simp
  · simp

theorem scan?_text {input : Text} {taken : Taken Decimal} (scanned : scan? input = some taken) :
    ∀ c ∈ taken.text, continuesNumeral c = true := by
  simp only [scan?] at scanned
  split at scanned
  · cases scanned
  · cases scanned
    refine List.forall_mem_append.mpr ⟨List.forall_mem_append.mpr ⟨?_, ?_⟩, ?_⟩
    · exact fun c digit => continuesNumeral_of_isDigit (List.mem_takeWhile_imp digit)
    · exact scanFraction_text _
    · exact scanExponent_text _

end Decimal

namespace Lexeme

theorem scanFixed?_text {input : Text} {lexeme : Lexeme}
    (scanned : scanFixed? input = some lexeme) :
    (∀ c ∈ lexeme.text, spells c = true) ∧ (',' ∈ lexeme.text → lexeme.value = some .comma) := by
  unfold scanFixed? at scanned
  split at scanned <;> cases scanned <;>
    refine ⟨fun c member => ?_, fun comma => ?_⟩ <;> simp_all [spells]

theorem scanRun?_text {input : Text} {lexeme : Lexeme} (scanned : scanRun? input = some lexeme) :
    ∀ c ∈ lexeme.text, spells c = true ∧ c ≠ ',' := by
  unfold scanRun? at scanned
  split at scanned
  · split at scanned
    · rename_i name
      cases scanned
      refine List.forall_mem_cons.mpr ⟨spells_of_startsName name, ?_⟩
      exact fun c member => spells_of_continuesName (List.mem_takeWhile_imp member)
    · split at scanned
      · rename_i layout
        cases scanned
        refine List.forall_mem_cons.mpr ⟨spells_of_isLayout layout, ?_⟩
        exact fun c member => spells_of_isLayout (List.mem_takeWhile_imp member)
      · cases scanned
  · cases scanned

theorem scan?_text {input : Text} {lexeme : Lexeme} (scanned : scan? input = some lexeme) :
    (∀ c ∈ lexeme.text, spells c = true) ∧ (',' ∈ lexeme.text → lexeme.value = some .comma) := by
  unfold scan? at scanned
  split at scanned
  · rename_i found
    cases scanned
    have facts := fun c member => spells_of_continuesNumeral (Decimal.scan?_text found c member)
    exact ⟨fun c member => (facts c member).1, fun comma => absurd rfl (facts _ comma).2⟩
  · cases fixed : scanFixed? input with
    | some lexeme' =>
      rw [fixed] at scanned
      cases scanned
      exact scanFixed?_text fixed
    | none =>
      rw [fixed] at scanned
      have facts := scanRun?_text scanned
      exact ⟨fun c member => (facts c member).1, fun comma => absurd rfl (facts _ comma).2⟩

end Lexeme

theorem tokenizeFrom_text {position : Nat} {text : Text} {tokens : List Placed}
    (tokenized : tokenizeFrom position text = .ok tokens) :
    (∀ c ∈ text, spells c = true) ∧
      (',' ∈ text → ∃ position', ⟨.comma, position'⟩ ∈ tokens) := by
  induction size : text.length using Nat.strongRecOn generalizing position text tokens with
  | _ size ih =>
    rcases text with _ | ⟨c, rest⟩
    · simp
    · obtain ⟨lexeme, others, scanned, later, rfl⟩ := tokenizeFrom_eq_ok tokenized
      have facts := Lexeme.scan?_text scanned
      have facts' := ih _ (by rw [← size]; exact Lexeme.rest_shorter scanned) later rfl
      rw [← (Lexeme.scan?_splits scanned).1]
      refine ⟨List.forall_mem_append.mpr ⟨facts.1, facts'.1⟩, ?_⟩
      intro comma
      rcases List.mem_append.mp comma with here | there
      · exact ⟨position, by simp [facts.2 here]⟩
      · obtain ⟨position', member⟩ := facts'.2 there
        exact ⟨position', List.mem_append_right _ member⟩

theorem length_of_evalAll {trees : List Expression} {values : List Value}
    (evaluated : Expression.evalAll trees = .ok values) : values.length = trees.length := by
  induction trees generalizing values with
  | nil =>
    cases evaluated
    rfl
  | cons first others ih =>
    simp only [Expression.evalAll, bind_eq_ok_iff] at evaluated
    obtain ⟨value, _, values', others', same⟩ := evaluated
    cases same
    rw [List.length_cons, List.length_cons, ih others']

/-- Every function takes one argument. -/
theorem Builtin.length_of_call {name : Text} {values : List Value} {position : Nat} {v : Value}
    (called : Builtin.call name values position = .ok v) : values.length = 1 := by
  simp only [Builtin.call] at called
  split at called
  · cases called
  · rename_i builtin found
    have known : builtin = Builtin.sqrt := by
      simpa [Builtin.all] using List.mem_of_find?_eq_some found
    rw [known] at called
    split at called
    · assumption
    · cases called

def WithoutComma (tokens : List Placed) : Prop := ∀ placed ∈ tokens, placed.token ≠ .comma

namespace WithoutComma

theorem append {left right : List Placed} (first : WithoutComma left)
    (second : WithoutComma right) : WithoutComma (left ++ right) :=
  List.forall_mem_append.mpr ⟨first, second⟩

theorem cons {token : Token} {position : Nat} {tokens : List Placed} (other : token ≠ .comma)
    (rest : WithoutComma tokens) : WithoutComma (⟨token, position⟩ :: tokens) :=
  List.forall_mem_cons.mpr ⟨other, rest⟩

theorem nil : WithoutComma [] := fun _ member => nomatch member

end WithoutComma

theorem ne_comma_of_operator? {token : Token} {operator : Operator}
    (stands : token.operator? = some operator) : token ≠ .comma := by
  rintro rfl
  cases stands

namespace Grammar

/- Only a comma between the arguments of a call could stand among the tokens of a tree, and a call
with a value has one argument. -/
mutual

theorem sum_withoutComma {allowed : Nat → Prop} {depth operators : Nat} {tokens : List Placed}
    {tree : Expression} {v : Value} :
    Sum allowed depth operators tokens tree → tree.eval = .ok v → WithoutComma tokens
  | .product inner, evaluated => product_withoutComma inner evaluated
  | .operator left stands _ right, evaluated => by
    simp only [Expression.eval, bind_eq_ok_iff] at evaluated
    obtain ⟨x, left', y, right', _⟩ := evaluated
    exact (sum_withoutComma left left').append
      (.cons (ne_comma_of_operator? stands) (product_withoutComma right right'))

theorem product_withoutComma {allowed : Nat → Prop} {depth operators : Nat}
    {tokens : List Placed} {tree : Expression} {v : Value} :
    Product allowed depth operators tokens tree → tree.eval = .ok v → WithoutComma tokens
  | .operand inner, evaluated => operand_withoutComma inner evaluated
  | .operator left stands _ right, evaluated => by
    simp only [Expression.eval, bind_eq_ok_iff] at evaluated
    obtain ⟨x, left', y, right', _⟩ := evaluated
    exact (product_withoutComma left left').append
      (.cons (ne_comma_of_operator? stands) (operand_withoutComma right right'))

theorem operand_withoutComma {allowed : Nat → Prop} {depth : Nat} {tokens : List Placed}
    {tree : Expression} {v : Value} :
    Operand allowed depth tokens tree → tree.eval = .ok v → WithoutComma tokens
  | .signed _ sign inner, evaluated => by
    simp only [Expression.eval, bind_eq_ok_iff] at evaluated
    obtain ⟨x, inner', _⟩ := evaluated
    refine .cons ?_ (operand_withoutComma inner inner')
    rintro rfl
    cases sign
  | .power _ inner, evaluated => power_withoutComma inner evaluated

theorem power_withoutComma {allowed : Nat → Prop} {depth : Nat} {tokens : List Placed}
    {tree : Expression} {v : Value} :
    Power allowed depth tokens tree → tree.eval = .ok v → WithoutComma tokens
  | .primary inner, evaluated => primary_withoutComma inner evaluated
  | .raised base stands exponent, evaluated => by
    simp only [Expression.eval, bind_eq_ok_iff] at evaluated
    obtain ⟨x, base', y, exponent', _⟩ := evaluated
    exact (primary_withoutComma base base').append
      (.cons (ne_comma_of_operator? stands) (operand_withoutComma exponent exponent'))

theorem primary_withoutComma {allowed : Nat → Prop} {depth : Nat} {tokens : List Placed}
    {tree : Expression} {v : Value} :
    Primary allowed depth tokens tree → tree.eval = .ok v → WithoutComma tokens
  | .number, _ => .cons nofun .nil
  | .imaginary _, _ => .cons nofun (.cons nofun .nil)
  | .unit _, _ => .cons nofun .nil
  | .pi, _ => .cons nofun .nil
  | .group inner, evaluated =>
    .cons nofun ((sum_withoutComma inner evaluated).append (.cons nofun .nil))
  | .emptyCall, _ => .cons nofun (.cons nofun (.cons nofun .nil))
  | .call given, evaluated => by
    simp only [Expression.eval, bind_eq_ok_iff] at evaluated
    obtain ⟨values, given', called⟩ := evaluated
    have one := (length_of_evalAll given').symm.trans (Builtin.length_of_call called)
    exact .cons nofun (.cons nofun
      ((arguments_withoutComma given given' one).append (.cons nofun .nil)))

theorem arguments_withoutComma {allowed : Nat → Prop} {depth : Nat} {tokens : List Placed}
    {trees : List Expression} {values : List Value} :
    Arguments allowed depth tokens trees → Expression.evalAll trees = .ok values →
    trees.length = 1 → WithoutComma tokens
  | .last only, evaluated, _ => by
    simp only [Expression.evalAll, bind_eq_ok_iff] at evaluated
    obtain ⟨x, only', _⟩ := evaluated
    exact sum_withoutComma only only'
  | .more _ others, _, one => by
    cases others <;> cases one

end

end Grammar

namespace Expression

theorem spells_of_value {text : Text} {v : Value} (evaluates : value text = .ok v) :
    ∀ c ∈ text, spells c = true ∧ c ≠ ',' := by
  simp only [value, read, bind_eq_ok_iff] at evaluates
  obtain ⟨tree, ⟨tokens, tokenized, parsed⟩, evaluated⟩ := evaluates
  obtain ⟨operators, derived⟩ := Grammar.ofTokens_sound parsed
  obtain ⟨spelled, commas⟩ := tokenizeFrom_text tokenized
  intro c member
  refine ⟨spelled c member, ?_⟩
  rintro rfl
  obtain ⟨position, comma⟩ := commas member
  exact Grammar.sum_withoutComma derived evaluated _ comma rfl

theorem exists_trim {text : Text} {v : Value} (evaluates : value text = .ok v) :
    ∃ lead tail, (∀ c ∈ lead, isLayout c = true) ∧ (∀ c ∈ tail, isLayout c = true) ∧
      text = lead ++ (text.trim ++ tail) := by
  obtain ⟨lead, tail, before, after, split⟩ := text.exists_trim
  have layout {piece : Text} (blank : piece.Blank) (inside : piece ⊆ text) :
      ∀ c ∈ piece, isLayout c = true :=
    fun c member =>
      isLayout_of_spells (spells_of_value evaluates c (inside member)).1 (blank c member)
  have lead_inside : lead ⊆ text := by
    rw [split]
    exact List.subset_append_left _ _
  have tail_inside : tail ⊆ text := by
    rw [split]
    exact List.subset_append_of_subset_right _ (List.subset_append_right _ _)
  exact ⟨lead, tail, layout before lead_inside, layout after tail_inside, split⟩

theorem value_trim {text : Text} {v : Value} (evaluates : value text = .ok v) :
    value text.trim = .ok v := by
  obtain ⟨lead, tail, before, after, split⟩ := exists_trim evaluates
  have same := tokenize_between_layout before after text.trim
  rw [← split] at same
  exact value_eq_ok_of_same_tokens same evaluates

end Expression
end DiagramScript
