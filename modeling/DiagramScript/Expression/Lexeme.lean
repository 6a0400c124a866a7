import DiagramScript.Expression.Error
import DiagramScript.Number.Decimal

/-! Expressions cut into lexemes: at every place the longest piece of text that belongs to a class
of tokens, or a run of layout, which stands for nothing. Main statement: `scan?_splits`, a lexeme
takes at least one character from the front and leaves the others over. -/
namespace DiagramScript

def isLayout (c : Char) : Bool :=
  c == ' ' || c == '\t' || c == '\x0c' || c == '\r' || c == '\n'

def startsName (c : Char) : Bool :=
  c.isAlpha || c == '_'

def continuesName (c : Char) : Bool :=
  c.isAlphanum || c == '_'

abbrev Lexeme := Taken (Option Token)

namespace Lexeme

/-- The tokens that are spelled in one way only. The double star comes before the star, which is
the start of it. -/
def scanFixed? : Text → Option Lexeme
  | '*' :: '*' :: rest => some ⟨some .doubleStar, ['*', '*'], rest⟩
  | '^' :: rest => some ⟨some .caret, ['^'], rest⟩
  | '+' :: rest => some ⟨some .plus, ['+'], rest⟩
  | '-' :: rest => some ⟨some .minus, ['-'], rest⟩
  | '*' :: rest => some ⟨some .star, ['*'], rest⟩
  | '/' :: rest => some ⟨some .slash, ['/'], rest⟩
  | '(' :: rest => some ⟨some .leftParen, ['('], rest⟩
  | ')' :: rest => some ⟨some .rightParen, [')'], rest⟩
  | ',' :: rest => some ⟨some .comma, [','], rest⟩
  | _ => none

def scanRun? : Text → Option Lexeme
  | c :: rest =>
    if startsName c then
      some ((Taken.run continuesName rest).behind c fun others => some (.name (c :: others)))
    else if isLayout c then some ((Taken.run isLayout rest).behind c fun _ => none)
    else none
  | [] => none

/-- The longest lexeme at the start of a text. The classes start with different characters, so
at most one of them applies. -/
def scan? (input : Text) : Option Lexeme :=
  match Decimal.scan? input with
  | some numeral =>
    some ⟨some (.number (numeral.value.toBinary64 false)), numeral.text, numeral.rest⟩
  | none => (scanFixed? input).orElse fun _ => scanRun? input

theorem scanFixed?_splits {input : Text} {lexeme : Lexeme}
    (scanned : scanFixed? input = some lexeme) : lexeme.Splits input ∧ lexeme.text ≠ [] := by
  unfold scanFixed? at scanned
  split at scanned <;> cases scanned <;> exact ⟨rfl, by simp⟩

theorem scanRun?_splits {input : Text} {lexeme : Lexeme}
    (scanned : scanRun? input = some lexeme) : lexeme.Splits input ∧ lexeme.text ≠ [] := by
  unfold scanRun? at scanned
  split at scanned
  · split at scanned
    · cases scanned
      exact ⟨Taken.behind_splits _ _ (Taken.run_splits _ _), by simp [Taken.behind]⟩
    · split at scanned
      · cases scanned
        exact ⟨Taken.behind_splits _ _ (Taken.run_splits _ _), by simp [Taken.behind]⟩
      · cases scanned
  · cases scanned

theorem scan?_splits {input : Text} {lexeme : Lexeme} (scanned : scan? input = some lexeme) :
    lexeme.Splits input ∧ lexeme.text ≠ [] := by
  unfold scan? at scanned
  split at scanned
  · rename_i found
    cases scanned
    exact ⟨Decimal.scan?_splits found, Decimal.scan?_text_ne_nil found⟩
  · rcases fixed : scanFixed? input with _ | lexeme
    · rw [fixed] at scanned
      exact scanRun?_splits scanned
    · rw [fixed] at scanned
      cases scanned
      exact scanFixed?_splits fixed

theorem rest_shorter {input : Text} {lexeme : Lexeme} (scanned : scan? input = some lexeme) :
    lexeme.rest.length < input.length := by
  obtain ⟨splits, some_text⟩ := scan?_splits scanned
  have lengths := congrArg List.length splits
  have := List.length_pos_iff.mpr some_text
  rw [List.length_append] at lengths
  omega

end Lexeme

def tokenizeFrom (position : Nat) (input : Text) : Except ExpressionError (List Placed) :=
  match input with
  | [] => .ok []
  | c :: others =>
    match scanned : Lexeme.scan? (c :: others) with
    | none => .error (.unexpectedCharacter c position)
    | some lexeme =>
      have := Lexeme.rest_shorter scanned
      match tokenizeFrom (position + Text.byteLength lexeme.text) lexeme.rest with
      | .error cause => .error cause
      | .ok tokens => .ok ((lexeme.value.map (⟨·, position⟩)).toList ++ tokens)
termination_by input.length
decreasing_by assumption

def tokenize (input : Text) : Except ExpressionError (List Placed) :=
  tokenizeFrom 0 input

end DiagramScript
