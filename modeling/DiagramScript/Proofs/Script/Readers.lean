import DiagramScript.Proofs.Expression.Display
import DiagramScript.Proofs.Script.OneLine

/-! The two readers of numbers. One takes a text as a numeral or a word for a number, the other as
an expression. A word is a name that no expression knows, so the readers meet in numerals alone,
with at most a sign in front and layout around them, and there both give the same number. -/
namespace DiagramScript

inductive Text.Signed : (negative : Bool) → (text piece : Text) → Prop
  | none {piece} : Signed false piece piece
  | plus {piece} : Signed false ('+' :: piece) piece
  | minus {piece} : Signed true ('-' :: piece) piece

theorem isAlpha_of_toLower {c : Char} (letter : c.toLower.isAlpha = true) : c.isAlpha = true := by
  by_cases upper : c.isUpper = true
  · exact Bool.or_eq_true_iff.mpr (.inl upper)
  · have same : c.toLower = c := by
      refine dif_neg fun inside => upper ?_
      unfold Char.isUpper
      simpa using inside
    rwa [same] at letter

namespace Binary64

variable {negative : Bool} {text piece : Text} {x : Binary64} {d : Decimal}

theorem neg_ofRatio (negative : Bool) (n m : Nat) :
    neg (ofRatio negative n m) = ofRatio (!negative) n m := by
  unfold ofRatio
  split <;> rfl

/-- A minus in front of a numeral has the same effect before and after rounding. -/
theorem neg_toBinary64 (d : Decimal) : -d.toBinary64 false = d.toBinary64 true := by
  rw [Decimal.toBinary64_eq_ofRatio, Decimal.toBinary64_eq_ofRatio]
  exact neg_ofRatio false _ _

theorem read?_eq_some (read : read? text = some x) :
    ∃ negative piece, text.Signed negative piece ∧ readUnsigned? negative piece = some x := by
  unfold read? at read
  split at read
  · exact ⟨true, _, .minus, read⟩
  · exact ⟨false, _, .plus, read⟩
  · exact ⟨false, _, .none, read⟩

theorem read?_of_signed (signed : text.Signed negative piece)
    (numeral : Decimal.Numeral piece d) : read? text = some (d.toBinary64 negative) := by
  cases signed with
  | none => exact read?_of_numeral numeral
  | plus => exact readUnsigned?_of_numeral false numeral
  | minus => exact readUnsigned?_of_numeral true numeral

theorem readUnsigned?_eq_some (read : readUnsigned? negative piece = some x) :
    (∃ d, Decimal.Numeral piece d ∧ x = d.toBinary64 negative) ∨
      readWord? negative piece = some x := by
  unfold readUnsigned? at read
  split at read
  · rename_i d numeral
    cases read
    exact .inl ⟨d, Decimal.numeral_of_read? numeral, rfl⟩
  · exact .inr read

def words : List Text :=
  ["inf".toList, "infinity".toList, "nan".toList]

theorem letters_of_readWord? (read : readWord? negative piece = some x) :
    (∀ c ∈ piece, c.isAlpha = true) ∧ 3 ≤ piece.length := by
  have word : piece.map Char.toLower ∈ words := by
    simp only [readWord?] at read
    split at read
    · rename_i infinite
      rcases infinite with same | same <;> simp [words, same]
    · split at read
      · rename_i same
        simp [words, same]
      · cases read
  have known : words.all (fun word => word.all Char.isAlpha && decide (3 ≤ word.length)) =
      true := by decide
  have facts := List.all_eq_true.mp known _ word
  simp only [Bool.and_eq_true, List.all_eq_true, decide_eq_true_eq, List.length_map] at facts
  exact ⟨fun c member => isAlpha_of_toLower (facts.1 _ (List.mem_map_of_mem member)), facts.2⟩

theorem characters_of_read? (read : read? text = some x) :
    ∀ c ∈ text, continuesName c = true ∨ c ∈ ['+', '-', '.'] := by
  obtain ⟨negative, piece, signed, unsigned⟩ := read?_eq_some read
  have inside : ∀ c ∈ piece, continuesName c = true ∨ c ∈ ['+', '-', '.'] := by
    intro c member
    obtain ⟨d, numeral, -⟩ | word := readUnsigned?_eq_some unsigned
    · rcases Decimal.numeral_characters numeral c member with digit | other
      · exact .inl (by simp [continuesName, Char.isAlphanum, digit])
      · simp only [List.mem_cons, List.not_mem_nil, or_false] at other
        rcases other with rfl | rfl | rfl | rfl | rfl <;> decide
    · exact .inl (by simp [continuesName, Char.isAlphanum, (letters_of_readWord? word).1 c member])
  cases signed with
  | none => exact inside
  | plus | minus => exact List.forall_mem_cons.mpr ⟨.inr (by simp), inside⟩

end Binary64

namespace Parser

variable {name : Text} {sign : Sign} {token : Token}

theorem operandWithin_of_unknown (unknown : name ∉ imaginaryUnits) (other : name ≠ piName)
    (bound room position : Nat) :
    operandWithin (bound + 1) (room + 1) [⟨.name name, position⟩] =
      .error (.unknownName name position) := by
  simp only [operandWithin, operandInside, power, primary, named, if_neg unknown, if_neg other]
  rfl

theorem operandWithin_of_sign {cause : ExpressionError} {tokens : List Placed} {bound room : Nat}
    (stands : token.sign? = some sign) (refused : operandWithin bound room tokens = .error cause)
    (position : Nat) :
    operandWithin (bound + 1) (room + 1) (⟨token, position⟩ :: tokens) = .error cause := by
  rw [operandWithin, Grammar.operandInside_of_sign stands, refused]
  rfl

theorem ofTokens_of_refused {cause : ExpressionError} {tokens : List Placed}
    (refused : operandWithin maxDepth maxDepth tokens = .error cause) :
    Expression.ofTokens tokens = .error cause := by
  simp only [Expression.ofTokens, expressionAt, sum, chained, product, Nat.sub_zero, refused]
  rfl

end Parser

theorem Tiled.of_name {c : Char} {others : Text} (starts : startsName c = true)
    (continues : ∀ c' ∈ others, continuesName c' = true) (position : Nat) :
    Tiled position (c :: others) [⟨.name (c :: others), position⟩] := by
  have longest : Lexeme.Longest (c :: others ++ []) ⟨some (.name (c :: others)), c :: others, []⟩ :=
    ⟨rfl, .name starts continues, fun _ _ start _ => by simpa using start.length_le⟩
  simpa using Tiled.of_longest longest (.nil _)

namespace Expression

variable {negative : Bool} {text piece : Text} {x : Binary64} {d : Decimal} {v : Value}

/-- A word for a number is a name in an expression, and the name of nothing. -/
theorem value_of_word (signed : text.Signed negative piece)
    (word : Binary64.readWord? negative piece = some x) :
    ∃ position, value text = .error (.unknownName piece position) := by
  obtain ⟨letters, long⟩ := Binary64.letters_of_readWord? word
  have unknown : piece ∉ Parser.imaginaryUnits := by
    intro unit
    have short : ∀ unit ∈ Parser.imaginaryUnits, unit.length < 3 := by decide
    exact Nat.not_lt_of_le long (short piece unit)
  have other : piece ≠ Parser.piName := by
    rintro rfl
    exact absurd long (by decide)
  have tiled (position : Nat) : Tiled position piece [⟨.name piece, position⟩] := by
    rcases piece with _ | ⟨c, others⟩
    · cases long
    · obtain ⟨first, behind⟩ := List.forall_mem_cons.mp letters
      refine Tiled.of_name ?_ (fun c' member => ?_) position
      · simp [startsName, first]
      · simp [continuesName, Char.isAlphanum, behind c' member]
  have refused {text : Text} {tokens : List Placed} {position : Nat} (tiled : Tiled 0 text tokens)
      (operand : Parser.operandWithin Parser.maxDepth Parser.maxDepth tokens =
        .error (.unknownName piece position)) :
      ∃ position, value text = .error (.unknownName piece position) := by
    refine ⟨position, ?_⟩
    rw [value, read, tokenize, tiled.tokenizeFrom_eq]
    exact congrArg (· >>= eval) (Parser.ofTokens_of_refused operand)
  have name := Parser.operandWithin_of_unknown unknown other
  have behind {c : Char} {token : Token} {sign : Sign} (spelled : (c, token) ∈ Lexeme.signs)
      (stands : token.sign? = some sign) :
      ∃ position, value (c :: piece) = .error (.unknownName piece position) := by
    have tiled' : Tiled 0 ([c] ++ piece) _ :=
      .of_longest (Lexeme.longest_of_sign spelled piece) (tiled _)
    exact refused tiled' (Parser.operandWithin_of_sign stands (name 254 254 _) 0)
  cases signed with
  | none => exact refused (tiled 0) (name 255 255 0)
  | plus => exact behind Lexeme.plus_mem_signs rfl
  | minus => exact behind Lexeme.minus_mem_signs rfl

example : Binary64.read? "-Infinity".toList = some (.infinite true) ∧
    value "-Infinity".toList = .error (.unknownName "Infinity".toList 1) := by decide +kernel

theorem value_of_literal (signed : text.Signed negative piece)
    (numeral : Decimal.Numeral piece d) :
    value text = .ok ⟨d.toBinary64 negative, .zero negative⟩ := by
  have reads := ReadsAs.of_numeral 0 numeral
  cases signed with
  | none => exact reads.value (by decide)
  | plus => exact reads.plus.value (by decide)
  | minus =>
    rw [reads.minus.value (by decide), ← Binary64.neg_toBinary64]
    rfl

/-- The readers of numbers and of expressions accept no text together but a numeral with at most a
sign in front of it. -/
theorem signed_numeral_of_value (number : Binary64.read? text = some x)
    (evaluates : value text = .ok v) : ∃ negative piece d, text.Signed negative piece ∧
      Decimal.Numeral piece d ∧ x = d.toBinary64 negative ∧ v = ⟨x, .zero negative⟩ := by
  obtain ⟨negative, piece, signed, unsigned⟩ := Binary64.read?_eq_some number
  obtain ⟨d, numeral, rfl⟩ | word := Binary64.readUnsigned?_eq_some unsigned
  · rw [value_of_literal signed numeral] at evaluates
    cases evaluates
    exact ⟨negative, piece, d, signed, numeral, rfl, rfl⟩
  · obtain ⟨position, refused⟩ := value_of_word signed word
    rw [refused] at evaluates
    cases evaluates

end Expression

/-- A numeral with at most a sign in front of it and layout around both. -/
inductive Literal : Text → (negative : Bool) → Decimal → Prop
  | mk {lead tail text piece negative d} : (∀ c ∈ lead, isLayout c = true) →
      (∀ c ∈ tail, isLayout c = true) → text.Signed negative piece → Decimal.Numeral piece d →
      Literal (lead ++ (text ++ tail)) negative d

theorem isBlank_of_isLayout {c : Char} (layout : isLayout c = true) : isBlank c = true := by
  rcases isLayout_cases layout with rfl | rfl | rfl | rfl | rfl <;> decide

theorem blank_of_layout {text : Text} (layout : ∀ c ∈ text, isLayout c = true) : text.Blank :=
  fun c member => isBlank_of_isLayout (layout c member)

theorem Binary64.trim_of_read? {text : Text} {x : Binary64} (read : read? text = some x) :
    text.trim = text := by
  refine Text.trim_of_solid fun c member => ?_
  rcases characters_of_read? read c member with name | other
  · exact isBlank_of_continuesName name
  · simp only [List.mem_cons, List.not_mem_nil, or_false] at other
    rcases other with rfl | rfl | rfl <;> decide

namespace Argument

variable {text : Text} {x : Binary64} {v : Value}

theorem readNumber_eq_ok_iff : readNumber text = .ok x ↔ Binary64.read? text.trim = some x := by
  unfold readNumber
  cases Binary64.read? text.trim <;> simp

theorem coordinate_of_readNumber (bindings : Bindings) (number : readNumber text = .ok x) :
    coordinate bindings text = (value text.trim).map Coordinate.ofComplex := by
  have characters := Binary64.characters_of_read? (readNumber_eq_ok_iff.mp number)
  have plain : Unreserved text.trim := by
    intro c member special
    simp only [reserved, List.mem_cons, List.not_mem_nil, or_false] at special
    rcases special with rfl | rfl | rfl | rfl | rfl | rfl | rfl <;>
      exact absurd (characters _ member) (by decide)
  have trimmed := plain.coordinate bindings
  rwa [coordinate, text.trim_trim] at trimmed

end Argument

namespace Literal

variable {text : Text} {negative : Bool} {d : Decimal}

theorem readNumber (literal : Literal text negative d) :
    Argument.readNumber text = .ok (d.toBinary64 negative) := by
  obtain ⟨before, after, signed, numeral⟩ := literal
  have read := Binary64.read?_of_signed signed numeral
  rwa [Argument.readNumber_eq_ok_iff, Text.trim_of_blank_append (blank_of_layout before),
    Text.trim_append_of_blank (blank_of_layout after), Binary64.trim_of_read? read]

theorem value (literal : Literal text negative d) :
    Expression.value text = .ok ⟨d.toBinary64 negative, .zero negative⟩ := by
  obtain ⟨before, after, signed, numeral⟩ := literal
  exact Expression.value_eq_ok_of_same_tokens (tokenize_between_layout before after _).symm
    (Expression.value_of_literal signed numeral)

end Literal

namespace Argument

variable {text : Text} {x : Binary64} {v : Value}

/-- A text that is a number to both readers is a literal, and the same number to both. -/
theorem literal_of_readers (number : readNumber text = .ok x) (evaluates : value text = .ok v) :
    ∃ negative d, Literal text negative d ∧ x = d.toBinary64 negative ∧
      v = ⟨x, .zero negative⟩ := by
  rw [readNumber_eq_ok_iff] at number
  rw [value_eq_ok_iff] at evaluates
  obtain ⟨negative, piece, d, signed, numeral, facts⟩ :=
    Expression.signed_numeral_of_value number (Expression.value_trim evaluates)
  obtain ⟨lead, tail, before, after, split⟩ := Expression.exists_trim evaluates
  refine ⟨negative, d, ?_, facts⟩
  rw [split]
  exact .mk before after signed numeral

/-- The two readers of numbers give the same number wherever both give one, and that is on literals.
So a circle and a point never take one literal for two numbers. -/
theorem readers_agree (text : Text) :
    (∀ x v, readNumber text = .ok x → value text = .ok v →
      v.re = x ∧ v.im.isZero = true ∧ ∃ negative d, Literal text negative d) ∧
    (∀ negative d, Literal text negative d →
      readNumber text = .ok (d.toBinary64 negative) ∧
        value text = .ok ⟨d.toBinary64 negative, .zero negative⟩ ∧
        ∀ bindings, coordinate bindings text = .ok ⟨d.toBinary64 negative, .zero negative⟩) ∧
    ∀ bindings x place, readNumber text = .ok x → coordinate bindings text = .ok place →
      place.x = x ∧ place.y.isZero = true := by
  refine ⟨fun x v number evaluates => ?_, fun negative d literal => ?_,
    fun bindings x place number coordinate => ?_⟩
  · obtain ⟨negative, d, literal, _, rfl⟩ := literal_of_readers number evaluates
    exact ⟨rfl, rfl, negative, d, literal⟩
  · have evaluates := value_eq_ok_iff.mpr literal.value
    refine ⟨literal.readNumber, evaluates, fun bindings => ?_⟩
    rw [coordinate_of_readNumber bindings literal.readNumber, value_trim evaluates]
    rfl
  · rw [coordinate_of_readNumber bindings number] at coordinate
    cases evaluated : value text.trim with
    | error cause =>
      rw [evaluated] at coordinate
      cases coordinate
    | ok v =>
      rw [evaluated] at coordinate
      cases coordinate
      obtain ⟨negative, piece, d, _, _, _, rfl⟩ :=
        Expression.signed_numeral_of_value (readNumber_eq_ok_iff.mp number)
          (value_eq_ok_iff.mp evaluated)
      exact ⟨rfl, rfl⟩

theorem readers_agree_infinite :
    (∃ x v, readNumber "+1e999".toList = .ok x ∧ value "+1e999".toList = .ok v ∧
      x = .infinite false ∧ v.re = x ∧ v.im.isZero = true) ∧
    (readNumber "\t-.0 ".toList = .ok (.zero true) ∧
      value "\t-.0 ".toList = .ok ⟨.zero true, .zero true⟩) ∧
    ∃ place, coordinate .empty "\t-.0 ".toList = .ok place ∧ place.x = .zero true ∧
      place.y.isZero = true := by
  have number : readNumber "+1e999".toList = .ok (.infinite false) := by decide +kernel
  have evaluates : value "+1e999".toList = .ok ⟨.infinite false, .zero false⟩ := by decide +kernel
  have digit : Decimal.Digits ['0'] := List.forall_mem_singleton.mpr rfl
  have numeral : Decimal.Numeral ['.', '0'] ⟨0, -1⟩ :=
    .pointed (List.forall_mem_nil _) digit (.inr (List.cons_ne_nil _ _)) .none
  have literal : Literal "\t-.0 ".toList true ⟨0, -1⟩ :=
    @Literal.mk ['\t'] [' '] _ _ true _ (by simp [isLayout]) (by simp [isLayout]) .minus numeral
  have facts := (readers_agree "\t-.0 ".toList).2.1 _ _ literal
  obtain ⟨re, im, _⟩ := (readers_agree _).1 _ _ number evaluates
  refine ⟨⟨_, _, number, evaluates, rfl, re, im⟩, ⟨facts.1, facts.2.1⟩, ⟨_, facts.2.2 .empty, ?_⟩⟩
  exact (readers_agree _).2.2 .empty _ _ facts.1 (facts.2.2 .empty)

end Argument
end DiagramScript
