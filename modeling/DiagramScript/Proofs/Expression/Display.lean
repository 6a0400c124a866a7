import DiagramScript.Proofs.Expression.Power
import DiagramScript.Proofs.Expression.Tiling
import DiagramScript.Proofs.Grammar.Completeness
import DiagramScript.Proofs.Number.Display
import DiagramScript.Proofs.Number.Zero
import DiagramScript.Script.Argument

/-! The text of a value is an expression for it. A number is written as a numeral with at most a
minus in front, so with or without the imaginary unit it is an operand (`ReadsAs`), and two of them
are joined as a sum or as a difference. Each of them brings a zero of some sign for the part that it
does not have, and the zeros do not move the other parts (`value_display`). -/
namespace DiagramScript

namespace Decimal

theorem scan?_of_numeral {text rest : Text} {d : Decimal} (numeral : Numeral text d)
    (stops : ∀ c ∈ rest.head?, ¬(c.isDigit = true ∨ c ∈ ['+', '-', '.', 'e', 'E'])) :
    scan? (text ++ rest) = some ⟨d, text, rest⟩ := by
  obtain ⟨taken, scanned, longer | rfl⟩ := scan?_reaches rest numeral
  · rcases List.append_eq_append_iff.mp (scan?_splits scanned) with
      ⟨missing, same, _⟩ | ⟨more, same, behind⟩
    · have size := congrArg List.length same
      rw [List.length_append] at size
      omega
    · -- What the longer numeral has more starts with the character that follows.
      rcases more with _ | ⟨c, more⟩
      · rw [same, List.append_nil] at longer
        exact absurd longer (Nat.lt_irrefl _)
      · have inside : c ∈ taken.text := by
          rw [same]
          exact List.mem_append_right text List.mem_cons_self
        rw [behind] at stops
        exact absurd (numeral_characters (numeral_of_scan? scanned) c inside) (stops c rfl)
  · exact scanned

end Decimal

namespace Lexeme

theorem longest_of_numeral {text : Text} {d : Decimal} (numeral : Decimal.Numeral text d)
    (rest : Text) (stops : ∀ c ∈ rest.head?, ¬(c.isDigit = true ∨ c ∈ ['+', '-', '.', 'e', 'E'])) :
    Longest (text ++ rest) ⟨some (.number (d.toBinary64 false)), text, rest⟩ := by
  refine scan?_eq_some_iff.mp ?_
  rw [scan?, Decimal.scan?_of_numeral numeral stops]

def signs : List (Char × Token) :=
  [('+', .plus), ('-', .minus)]

theorem plus_mem_signs : ('+', Token.plus) ∈ signs := by simp [signs]

theorem minus_mem_signs : ('-', Token.minus) ∈ signs := by simp [signs]

theorem longest_of_sign {c : Char} {token : Token} (sign : (c, token) ∈ signs) (rest : Text) :
    Longest (c :: rest) ⟨some token, [c], rest⟩ := by
  refine scan?_eq_some_iff.mp ?_
  simp only [signs, List.mem_cons, Prod.mk.injEq, List.not_mem_nil, or_false] at sign
  rcases sign with ⟨rfl, rfl⟩ | ⟨rfl, rfl⟩ <;>
    rw [scan?, Decimal.scan?_eq_none rfl (by decide)] <;> rfl

theorem longest_imaginaryUnit : Longest (['i'] ++ []) ⟨some (.name ['i']), ['i'], []⟩ :=
  scan?_eq_some_iff.mp rfl

theorem Longest.followed {piece rest tail : Text} {token : Token} (apart : Apart tail)
    (longest : Longest (piece ++ rest) ⟨some token, piece, rest⟩) :
    Longest (piece ++ (rest ++ tail)) ⟨some token, piece, rest ++ tail⟩ := by
  have stretches := (Stretches.of_apart apart []).behind rest
  rw [List.append_nil] at stretches
  exact longest.followed_by stretches

end Lexeme

namespace Tiled

variable {position : Nat} {tokens more : List Placed}

theorem of_longest {piece rest : Text} {token : Token}
    (longest : Lexeme.Longest (piece ++ rest) ⟨some token, piece, rest⟩)
    (behind : Tiled (position + Text.byteLength piece) rest tokens) :
    Tiled position (piece ++ rest) (⟨token, position⟩ :: tokens) :=
  .token (List.forall_mem_nil _) longest behind

theorem nil (position : Nat) : Tiled position [] [] :=
  .layout (List.forall_mem_nil _)

theorem append {text tail : Text} (apart : Apart tail) (tiled : Tiled position text tokens)
    (behind : Tiled (position + Text.byteLength text) tail more) :
    Tiled position (text ++ tail) (tokens ++ more) := by
  induction tiled with
  | layout layout => exact behind.behind_layout layout
  | @token position gap piece rest token tokens layout longest _ ih =>
    rw [Text.byteLength_append, Text.byteLength_append, ← Nat.add_assoc, ← Nat.add_assoc] at behind
    rw [List.append_assoc, List.append_assoc]
    exact .token layout (longest.followed apart) (ih behind)

theorem value_eq {text : Text} {operators : Nat} {tree : Expression} (tiled : Tiled 0 text tokens)
    (sum : Grammar.Sum Grammar.Limited 0 operators tokens tree) :
    Expression.value text = tree.eval := by
  rw [Expression.value, Expression.read, tokenize, tiled.tokenizeFrom_eq]
  exact congrArg (· >>= Expression.eval) (Grammar.ofTokens_of_limited ⟨operators, sum⟩)

end Tiled

/-- Wherever it stands, the text is an operand for the value, with at most so many signs. -/
def ReadsAs (signs : Nat) (text : Text) (v : Value) : Prop :=
  ∀ position, ∃ tokens tree, Tiled position text tokens ∧
    (∀ depth, depth + signs < Parser.maxDepth →
      Grammar.Operand Grammar.Limited depth tokens tree) ∧
    tree.eval = .ok v

namespace ReadsAs

variable {signs : Nat} {text text' : Text} {d : Decimal} {v v' w : Value}

theorem of_numeral (signs : Nat) (numeral : Decimal.Numeral text d) :
    ReadsAs signs text (Complex.ofReal (d.toBinary64 false)) := by
  intro position
  have tiled := Tiled.of_longest (Lexeme.longest_of_numeral numeral [] nofun)
    (Tiled.nil (position + Text.byteLength text))
  rw [List.append_nil] at tiled
  refine ⟨_, .literal (Complex.ofReal (d.toBinary64 false)) position, tiled,
    fun depth room => ?_, rfl⟩
  exact .power (Nat.lt_of_add_right_lt room) (.primary .number)

theorem of_numeral_unit (signs : Nat) (numeral : Decimal.Numeral text d) :
    ReadsAs signs (text ++ ['i']) ⟨.zero false, d.toBinary64 false⟩ := by
  intro position
  have unit (position : Nat) : Tiled position ['i'] [⟨.name ['i'], position⟩] :=
    .of_longest Lexeme.longest_imaginaryUnit (.nil _)
  have longest := Lexeme.longest_of_numeral numeral ['i'] (by simp)
  refine ⟨_, .literal ⟨.zero false, d.toBinary64 false⟩ position, .of_longest longest (unit _),
    fun depth room => ?_, rfl⟩
  exact .power (Nat.lt_of_add_right_lt room) (.primary (.imaginary (by decide)))

theorem signed {c : Char} {token : Token} {sign : Sign} (spelled : (c, token) ∈ Lexeme.signs)
    (stands : token.sign? = some sign) (reads : ReadsAs signs text v) :
    ReadsAs (signs + 1) (c :: text) (sign.apply v) := by
  intro position
  obtain ⟨tokens, tree, tiled, operand, value⟩ := reads (position + Text.byteLength [c])
  refine ⟨_, .signed sign tree position, .of_longest (Lexeme.longest_of_sign spelled text) tiled,
    fun depth room => ?_, ?_⟩
  · exact .signed (Nat.lt_of_add_right_lt room) stands (operand (depth + 1) (by omega))
  · rw [Expression.eval, value]
    rfl

theorem minus (reads : ReadsAs signs text v) : ReadsAs (signs + 1) ('-' :: text) (-v) :=
  reads.signed Lexeme.minus_mem_signs rfl

theorem plus (reads : ReadsAs signs text v) : ReadsAs (signs + 1) ('+' :: text) v :=
  reads.signed Lexeme.plus_mem_signs rfl

theorem value (reads : ReadsAs signs text v) (few : signs < Parser.maxDepth) :
    Expression.value text = .ok v := by
  obtain ⟨tokens, tree, tiled, operand, value⟩ := reads 0
  rw [tiled.value_eq (.product (.operand (operand 0 (by omega)))), value]

section

variable (reads : ReadsAs signs text v) (reads' : ReadsAs signs text' v')
  (few : signs + 1 < Parser.maxDepth)

include reads reads' few

theorem value_joined {c : Char} {token : Token} {operator : Operator}
    (sign : (c, token) ∈ Lexeme.signs) (stands : token.operator? = some operator)
    (additive : operator.isAdditive = true)
    (applied : ∀ position, operator.apply v v' position = .ok w) :
    Expression.value (text ++ ' ' :: c :: ' ' :: text') = .ok w := by
  have space : ∀ c ∈ [' '], isLayout c = true := by simp [isLayout]
  obtain ⟨tokens, tree, tiled, operand, value⟩ := reads 0
  obtain ⟨tokens', tree', tiled', operand', value'⟩ :=
    reads' (0 + Text.byteLength text + Text.byteLength [' '] + Text.byteLength [c] +
      Text.byteLength [' '])
  have joined := tiled.append (by rintro _ _ ⟨⟩; rfl)
    (.token space (Lexeme.longest_of_sign sign (' ' :: text')) (tiled'.behind_layout space))
  have evaluated := joined.value_eq (.operator (.product (.operand (operand 0 (by omega)))) stands
    additive (.operand (operand' 1 (by omega))))
  rw [Expression.eval, value, value'] at evaluated
  exact evaluated.trans (applied _)

theorem value_sum : Expression.value (text ++ (" + ".toList ++ text')) = .ok (v + v') :=
  reads.value_joined reads' few Lexeme.plus_mem_signs rfl rfl fun _ => rfl

theorem value_difference : Expression.value (text ++ (" - ".toList ++ text')) = .ok (v - v') :=
  reads.value_joined reads' few Lexeme.minus_mem_signs rfl rfl fun _ => rfl

end

section

variable (negative : Bool) (rank : Fin Binary64.finiteCount)

theorem of_display {unit : Text} (part : Bool → Value) (opposite : -part false = part true)
    (reads : ∀ {text d} signs, Decimal.Numeral text d → d.toBinary64 false = .finite false rank →
      ReadsAs signs (text ++ unit) (part false)) :
    ReadsAs 1 ((Binary64.finite negative rank).display ++ unit) (part negative) := by
  obtain ⟨d, numeral, read⟩ := Binary64.digits_numeral rank
  cases negative with
  | false =>
    rw [Binary64.display, if_neg Bool.false_ne_true]
    exact reads 1 numeral read
  | true =>
    rw [Binary64.display, if_pos rfl, List.cons_append, ← opposite]
    exact (reads 0 numeral read).minus

theorem of_real : ReadsAs 1 (Binary64.finite negative rank).display
    ⟨.finite negative rank, .zero negative⟩ := by
  rw [← List.append_nil (Binary64.display _)]
  refine of_display negative rank (fun sign => ⟨.finite sign rank, .zero sign⟩) rfl ?_
  intro text d signs numeral read
  rw [List.append_nil, ← read]
  exact of_numeral signs numeral

theorem of_imaginary : ReadsAs 1 ((Binary64.finite negative rank).display ++ ['i'])
    ⟨.zero negative, .finite negative rank⟩ := by
  refine of_display negative rank (fun sign => ⟨.zero sign, .finite sign rank⟩) rfl ?_
  intro text d signs numeral read
  rw [← read]
  exact of_numeral_unit signs numeral

end

end ReadsAs

namespace Binary64

variable {x y : Binary64}

theorem agrees_iff : x.agrees y = true ↔ x.place? = y.place? :=
  beq_iff_eq

theorem agrees_refl (x : Binary64) : x.agrees x = true :=
  agrees_iff.mpr rfl

theorem agrees_of_isZero (none : x.isZero = true) (none' : y.isZero = true) :
    x.agrees y = true := by
  rw [agrees_iff, isZero_iff_place?.mp none, isZero_iff_place?.mp none']

end Binary64

namespace Complex

open Binary64

theorem agrees_of_parts {z w : Value} (re : z.re.agrees w.re = true)
    (im : z.im.agrees w.im = true) : z.agrees w = true :=
  Bool.and_eq_true_iff.mpr ⟨re, im⟩

variable (s t : Bool) (a b : Fin finiteCount)

theorem add_agrees (zeroSign zeroSign' : Bool) :
    (⟨finite s a, .zero zeroSign⟩ + ⟨.zero zeroSign', finite t b⟩ : Value).agrees
      ⟨finite s a, finite t b⟩ = true :=
  agrees_of_parts (agrees_iff.mpr (place?_add_zero s zeroSign' a))
    (agrees_iff.mpr (place?_zero_add zeroSign t b))

theorem sub_agrees (zeroSign zeroSign' : Bool) :
    (⟨finite s a, .zero zeroSign⟩ - ⟨.zero zeroSign', finite (!t) b⟩ : Value).agrees
      ⟨finite s a, finite t b⟩ = true := by
  cases t <;> exact add_agrees s _ a b zeroSign (!zeroSign')

end Complex

/-- The text of a value with finite parts is read as a value equal to it. -/
theorem value_display (z : Value) (finite : z.isFinite = true) :
    ∃ w, Argument.value z.display = .ok w ∧ w.agrees z = true := by
  have one : 1 < Parser.maxDepth := by decide
  have two : 1 + 1 < Parser.maxDepth := by decide
  suffices ∃ w, Expression.value z.display = .ok w ∧ w.agrees z = true by
    obtain ⟨w, evaluates, agrees⟩ := this
    exact ⟨w, by rw [Argument.value, evaluates], agrees⟩
  obtain ⟨s, a, t, b, rfl⟩ := Complex.exists_parts finite
  have real := ReadsAs.of_real s a
  unfold Complex.display
  split
  · rename_i none
    obtain ⟨none, none'⟩ := Bool.and_eq_true_iff.mp none
    exact ⟨_, (ReadsAs.of_real false ⟨0, by decide⟩).value one,
      Complex.agrees_of_parts (Binary64.agrees_of_isZero rfl none)
        (Binary64.agrees_of_isZero rfl none')⟩
  split
  · rename_i none
    exact ⟨_, real.value one, Complex.agrees_of_parts (Binary64.agrees_refl _)
      (Binary64.agrees_of_isZero rfl none)⟩
  split
  · rename_i none
    exact ⟨_, (ReadsAs.of_imaginary t b).value one,
      Complex.agrees_of_parts (Binary64.agrees_of_isZero rfl none) (Binary64.agrees_refl _)⟩
  rw [List.append_assoc, List.append_assoc, List.append_assoc, List.append_assoc]
  split
  · exact ⟨_, real.value_sum (.of_imaginary t b) two, Complex.add_agrees s t a b s t⟩
  · exact ⟨_, real.value_difference (.of_imaginary (!t) b) two, Complex.sub_agrees s t a b s _⟩

/-- The minus of a real part is a sign and that of an imaginary part behind it an operator; a zero
below zero leaves the minus of the imaginary part at the front. -/
theorem value_display_negative :
    (⟨Decimal.toBinary64 true ⟨15, -1⟩, Decimal.toBinary64 true ⟨2, 0⟩⟩ : Value).display =
      "-1.5 - 2i".toList ∧
    (∃ w, Argument.value "-1.5 - 2i".toList = .ok w ∧
      w.agrees ⟨Decimal.toBinary64 true ⟨15, -1⟩, Decimal.toBinary64 true ⟨2, 0⟩⟩ = true) ∧
    (⟨.zero true, Decimal.toBinary64 true ⟨25, -2⟩⟩ : Value).display = "-0.25i".toList ∧
    ∃ w, Argument.value "-0.25i".toList = .ok w ∧
      w.agrees ⟨.zero true, Decimal.toBinary64 true ⟨25, -2⟩⟩ = true := by
  have written : Complex.display
      ⟨Decimal.toBinary64 true ⟨15, -1⟩, Decimal.toBinary64 true ⟨2, 0⟩⟩ =
      "-1.5 - 2i".toList := by decide +kernel
  have written' : (⟨.zero true, Decimal.toBinary64 true ⟨25, -2⟩⟩ : Value).display =
      "-0.25i".toList := by decide +kernel
  have read := value_display ⟨Decimal.toBinary64 true ⟨15, -1⟩, Decimal.toBinary64 true ⟨2, 0⟩⟩
    (by decide +kernel)
  have read' := value_display ⟨.zero true, Decimal.toBinary64 true ⟨25, -2⟩⟩ (by decide +kernel)
  rw [written] at read
  rw [written'] at read'
  exact ⟨written, read, written', read'⟩

end DiagramScript
