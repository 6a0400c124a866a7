import DiagramScript.Proofs.Expression.Faults
import DiagramScript.Proofs.Script.OneLine

/-! Columns in the errors of coordinates. An error quotes the expression without the white space
around it, and the position counts from the start of the text that was read as an expression. A
bare expression is trimmed before it is read, so there the two agree. A component in brackets is
read as it stands between the commas, so there the position counts the white space in front of it
along. -/
namespace DiagramScript

namespace Text

theorem Stands.inside {lead tail text piece : Text} {position : Nat} (before : lead.Blank)
    (after : tail.Blank) (solid : ∀ c ∈ piece, isBlank c = false)
    (stands : (lead ++ (text ++ tail)).Stands piece position) :
    ∃ offset, position = byteLength lead + offset ∧ text.Stands piece offset := by
  obtain ⟨some, front, back, split, rfl⟩ := stands
  -- The first character of the piece is behind the white space in front, the last one is before
  -- the white space at the end.
  obtain ⟨extra, rfl, split'⟩ : ∃ extra, front = lead ++ extra ∧
      text ++ tail = extra ++ (piece ++ back) := by
    rcases piece with _ | ⟨c, piece⟩
    · exact absurd rfl some
    · exact behind_blank before (solid c List.mem_cons_self) split
  obtain ⟨extra', rfl⟩ : ∃ extra', text = extra ++ (piece ++ extra') := by
    rcases List.eq_nil_or_concat piece with none | ⟨init, c, rfl⟩
    · exact absurd none some
    · have split'' : text ++ tail = (extra ++ init) ++ c :: back := by simpa using split'
      obtain ⟨extra', same⟩ := before_blank after (solid c (by simp)) split''
      exact ⟨extra', by simpa using same⟩
  exact ⟨byteLength extra, byteLength_append _ _, some, extra, extra', rfl, rfl⟩

end Text

namespace Argument

variable {bindings : Bindings} {text expression piece : Text} {cause : ExpressionError}
  {position : Nat}

theorem value_eq_invalidExpression
    (failed : value text = .error (.invalidExpression expression cause)) :
    text.trim = expression ∧ Expression.value text = .error cause := by
  obtain ⟨cause', same, failed'⟩ := value_eq_error failed
  cases same
  exact ⟨rfl, failed'⟩

theorem coordinate_eq_invalidExpression
    (failed : coordinate bindings text = .error (.invalidExpression expression cause)) :
    (text.trim = expression ∧ Expression.value expression = .error cause) ∨
      ∃ inner x y source, text.trim = '[' :: (inner ++ [']']) ∧ components inner = [x, y] ∧
        (source = x ∨ source = y) ∧ source.trim = expression ∧
        Expression.value source = .error cause := by
  unfold coordinate coordinateTrimmed at failed
  split at failed
  · rename_i rest opened
    right
    split at failed
    · rename_i inner closed
      obtain rfl := List.isSuffixOf?_eq_some_iff_append_eq.mp closed
      unfold pair at failed
      split at failed
      · rename_i x y parts
        simp only [bind_eq_error_iff] at failed
        obtain first | ⟨_, _, second | ⟨_, _, impossible⟩⟩ := failed
        · exact ⟨inner, x, y, x, opened, parts, .inl rfl, value_eq_invalidExpression first⟩
        · exact ⟨inner, x, y, y, opened, parts, .inr rfl, value_eq_invalidExpression second⟩
        · cases impossible
      · cases failed
    · cases failed
  · unfold Bindings.fetch at failed
    split at failed <;> cases failed
  · left
    cases evaluated : value text.trim with
    | ok v =>
      rw [evaluated] at failed
      cases failed
    | error error =>
      rw [evaluated] at failed
      cases failed
      obtain ⟨same, failed'⟩ := value_eq_invalidExpression evaluated
      rw [Text.trim_trim] at same
      exact ⟨same, same ▸ failed'⟩

/-- A position counts from the start of the text that was read: a bare expression without the white
space around it, or a component in brackets as it stands between the brackets and the comma. What
the error quotes stands there, and in the expression of the error it stands earlier by the white
space in front of the component. -/
theorem stands_of_invalidExpression
    (failed : coordinate bindings text = .error (.invalidExpression expression cause))
    (quotes : cause.quoted? = some (piece, position)) :
    (text.trim = expression ∧ expression.Stands piece position) ∨
      ∃ inner x y source, text.trim = '[' :: (inner ++ [']']) ∧ components inner = [x, y] ∧
        (source = x ∨ source = y) ∧ source.trim = expression ∧ source.Stands piece position ∧
        ((∀ c, cause = .unexpectedCharacter c position → isBlank c = false) →
          ∃ offset, position = Text.byteLength (source.takeWhile isBlank) + offset ∧
            expression.Stands piece offset) := by
  obtain ⟨same, failed'⟩ | ⟨inner, x, y, source, opened, parts, either, rfl, failed'⟩ :=
    coordinate_eq_invalidExpression failed
  · exact .inl ⟨same, (Expression.stands_of_value_error failed' quotes).1⟩
  · obtain ⟨stands, letters⟩ := Expression.stands_of_value_error failed' quotes
    refine .inr ⟨inner, x, y, source, opened, parts, either, rfl, stands, fun plain => ?_⟩
    -- A name has no white space, and a character has none by assumption.
    have solid : ∀ c ∈ piece, isBlank c = false := by
      by_cases character : ∃ c, cause = .unexpectedCharacter c position
      · obtain ⟨c, rfl⟩ := character
        cases quotes
        simpa using plain c rfl
      · intro c member
        exact isBlank_of_continuesName (letters (fun c' same => character ⟨c', same⟩) c member)
    obtain ⟨tail, blank, split⟩ := source.trim_split
    rw [split] at stands
    exact stands.inside source.blank_takeWhile blank solid

theorem stands_behind_space :
    ∃ source : Text, source.trim = "x".toList ∧ source.Stands "x".toList 1 ∧
      ∃ offset, 1 = Text.byteLength (source.takeWhile isBlank) + offset ∧
        Text.Stands "x".toList "x".toList offset := by
  have failed : coordinate .empty "[1, x]".toList =
      .error (.invalidExpression "x".toList (.unknownName "x".toList 1)) := by decide +kernel
  obtain ⟨bare, _⟩ | ⟨_, _, _, source, _, _, _, trimmed, stands, offset⟩ :=
    stands_of_invalidExpression failed rfl
  · exact absurd bare (by decide)
  · exact ⟨source, trimmed, stands, offset nofun⟩

/-- The position that the error reports is past the end of the expression that it quotes. -/
theorem position_outside_expression :
    coordinate .empty "[1, x]".toList =
        .error (.invalidExpression "x".toList (.unknownName "x".toList 1)) ∧
      ¬ Text.Stands "x".toList "x".toList 1 := by
  refine ⟨by decide +kernel, fun stands => ?_⟩
  have inside := stands.lt
  revert inside
  decide

end Argument
end DiagramScript
