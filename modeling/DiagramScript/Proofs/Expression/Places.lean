import DiagramScript.Proofs.Expression.Layout

/-! Where the tokens of an expression stand. The position of a token is the number of bytes in
front of its lexeme, and a text without tokens is refused at a place where no lexeme starts. -/
namespace DiagramScript

namespace Text

/-- A piece, which is not empty, starts in the text at the byte offset. -/
def Stands (text piece : Text) (position : Nat) : Prop :=
  piece ≠ [] ∧ ∃ before after, text = before ++ (piece ++ after) ∧ byteLength before = position

theorem byteLength_pos {text : Text} (some : text ≠ []) : 0 < byteLength text := by
  rcases text with _ | ⟨c, rest⟩
  · exact absurd rfl some
  · have := c.utf8Size_pos
    rw [byteLength]
    omega

theorem Stands.lt {text piece : Text} {position : Nat} (stands : text.Stands piece position) :
    position < byteLength text := by
  obtain ⟨some, before, after, rfl, rfl⟩ := stands
  have := byteLength_pos some
  rw [byteLength_append, byteLength_append]
  omega

end Text

theorem tokenizeFrom_places {position : Nat} {text : Text} {tokens : List Placed} {placed : Placed}
    (tokenized : tokenizeFrom position text = .ok tokens) (member : placed ∈ tokens) :
    ∃ before rest lexeme, text = before ++ rest ∧
      placed.position = position + Text.byteLength before ∧
      Lexeme.scan? rest = some lexeme ∧ lexeme.value = some placed.token := by
  induction size : text.length using Nat.strongRecOn generalizing position text tokens with
  | _ size ih =>
    rcases text with _ | ⟨c, behind⟩
    · rw [tokenizeFrom] at tokenized
      cases tokenized
      cases member
    · obtain ⟨lexeme, others, scanned, later, rfl⟩ := tokenizeFrom_eq_ok tokenized
      -- The token is that of the first lexeme, or one of the text behind it.
      rcases List.mem_append.mp member with first | member'
      · obtain ⟨token, value, rfl⟩ := Option.map_eq_some_iff.mp (Option.mem_toList.mp first)
        exact ⟨[], c :: behind, lexeme, rfl, rfl, scanned, value⟩
      · have shorter := Lexeme.rest_shorter scanned
        obtain ⟨before, rest, lexeme', split, place, found⟩ :=
          ih _ (by rwa [← size]) later member' rfl
        refine ⟨lexeme.text ++ before, rest, lexeme', ?_, ?_, found⟩
        · rw [← (Lexeme.scan?_splits scanned).1, split, List.append_assoc]
        · rw [place, Text.byteLength_append, Nat.add_assoc]

theorem tokenizeFrom_refuses {position : Nat} {text : Text} {cause : ExpressionError}
    (refused : tokenizeFrom position text = .error cause) :
    ∃ before c rest, text = before ++ c :: rest ∧ Lexeme.scan? (c :: rest) = none ∧
      cause = .unexpectedCharacter c (position + Text.byteLength before) := by
  induction size : text.length using Nat.strongRecOn generalizing position text with
  | _ size ih =>
    rcases text with _ | ⟨c, behind⟩
    · rw [tokenizeFrom] at refused
      cases refused
    · obtain ⟨unscanned, rfl⟩ | ⟨lexeme, scanned, later⟩ := tokenizeFrom_eq_error refused
      · exact ⟨[], c, behind, rfl, unscanned, rfl⟩
      · have shorter := Lexeme.rest_shorter scanned
        obtain ⟨before, c', rest, split, unscanned, rfl⟩ :=
          ih _ (by rwa [← size]) later rfl
        refine ⟨lexeme.text ++ before, c', rest, ?_, unscanned, ?_⟩
        · rw [← (Lexeme.scan?_splits scanned).1, split, List.append_assoc]
        · rw [Text.byteLength_append, Nat.add_assoc]

theorem stands_of_unexpectedCharacter {text : Text} {c : Char} {position : Nat}
    (refused : tokenize text = .error (.unexpectedCharacter c position)) :
    text.Stands [c] position := by
  obtain ⟨before, c', rest, rfl, _, same⟩ := tokenizeFrom_refuses refused
  obtain ⟨rfl, rfl⟩ : c = c' ∧ position = Text.byteLength before := by simpa using same
  exact ⟨List.cons_ne_nil _ _, before, rest, rfl, rfl⟩

end DiagramScript
