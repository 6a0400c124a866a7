import DiagramScript.Proofs.Script.Comment
import DiagramScript.Script.Argument

/-! Escapes in the texts of labels. A text can be written so that it is one line, has no comment and
reads back as it was, if no backslash of its own meets what it would escape. Two rules have to
agree here: a comment is found by taking backslashes in pairs, and the escapes are not. -/
namespace DiagramScript

namespace Argument

def encodeChar (c : Char) : Text :=
  if c = '\n' then ['\\', 'n']
  else if c = '\t' then ['\\', 't']
  else if c = '%' then ['\\', '%']
  else [c]

def encodeEscapes (text : Text) : Text :=
  text.flatMap encodeChar

/-- Texts of labels that can be written between quotes: none of their characters ends the literal,
and none of their backslashes escapes the character after it. -/
structure Writable (text : Text) : Prop where
  quote : '"' ∉ text
  bracket : ']' ∉ text
  letters : ¬ ['\\', 'n'] <:+: text ∧ ¬ ['\\', 't'] <:+: text
  /-- The run of backslashes directly before a percent sign is even. -/
  percents : ∀ (i : Nat) (inside : i < text.length), text[i] = '%' →
    ((text.take i).rtakeWhile (· == '\\')).length % 2 = 0

theorem encodeEscapes_cons (c : Char) (rest : Text) :
    encodeEscapes (c :: rest) = encodeChar c ++ encodeEscapes rest :=
  List.flatMap_cons

theorem encodeChar_cases (c : Char) :
    c = '\n' ∨ c = '\t' ∨ c = '%' ∨ c ≠ '\n' ∧ c ≠ '%' ∧ encodeChar c = [c] := by
  unfold encodeChar
  by_cases feed : c = '\n'
  · exact .inl feed
  · by_cases tab : c = '\t'
    · exact .inr (.inl tab)
    · by_cases percent : c = '%'
      · exact .inr (.inr (.inl percent))
      · exact .inr (.inr (.inr ⟨feed, percent, by rw [if_neg feed, if_neg tab, if_neg percent]⟩))

theorem mem_encodeEscapes {text : Text} {c : Char} (member : c ∈ encodeEscapes text) :
    c ∈ ['\\', 'n', 't', '%'] ∨ c ∈ text ∧ c ≠ '\n' := by
  -- The three characters with an escape bring in what is theirs, all others themselves.
  have brought : ∀ c ∈ ['\n', '\t', '%'], ∀ c' ∈ encodeChar c, c' ∈ ['\\', 'n', 't', '%'] := by
    simp [encodeChar]
  obtain ⟨c', member', here⟩ := List.mem_flatMap.mp member
  rcases encodeChar_cases c' with rfl | rfl | rfl | ⟨feed, _, same⟩
  · exact .inl (brought _ (by decide) c here)
  · exact .inl (brought _ (by decide) c here)
  · exact .inl (brought _ (by decide) c here)
  · rw [same] at here
    obtain rfl := List.mem_singleton.mp here
    exact .inr ⟨member', feed⟩

theorem feed_not_mem_encodeEscapes (text : Text) : '\n' ∉ encodeEscapes text := by
  intro feed
  rcases mem_encodeEscapes feed with brought | ⟨_, other⟩
  · exact absurd brought (by decide)
  · exact other rfl

/-- A written text starts with a character that a backslash would escape only if it is a letter
that the text itself starts with. -/
theorem encodeEscapes_head {text rest : Text} {c : Char} (start : encodeEscapes text = c :: rest)
    (escapes : c ∈ ['n', 't', '%']) : c ≠ '%' ∧ ∃ rest', text = c :: rest' := by
  rcases text with _ | ⟨c', rest'⟩
  · cases start
  · rw [encodeEscapes_cons] at start
    rcases encodeChar_cases c' with rfl | rfl | rfl | ⟨_, percent, same⟩
    · cases start
      exact absurd escapes (by decide)
    · cases start
      exact absurd escapes (by decide)
    · cases start
      exact absurd escapes (by decide)
    · rw [same] at start
      cases start
      exact ⟨percent, rest', rfl⟩

theorem decodeEscapes_encodeEscapes {text : Text}
    (letters : ¬ ['\\', 'n'] <:+: text ∧ ¬ ['\\', 't'] <:+: text) :
    decodeEscapes (encodeEscapes text) = text := by
  induction text with
  | nil => rfl
  | cons c rest ih =>
    have same := ih ⟨fun inside => letters.1 (List.infix_cons inside),
      fun inside => letters.2 (List.infix_cons inside)⟩
    rw [encodeEscapes_cons]
    rcases encodeChar_cases c with rfl | rfl | rfl | ⟨_, _, itself⟩
    · exact congrArg ('\n' :: ·) same
    · exact congrArg ('\t' :: ·) same
    · exact congrArg ('%' :: ·) same
    · -- What follows a backslash that stands for itself is no escape.
      rw [itself, List.singleton_append, decodeEscapes.eq_4, same]
      · rintro _ rfl start
        obtain ⟨_, rest', rfl⟩ := encodeEscapes_head start (by decide)
        exact letters.1 ⟨[], rest', rfl⟩
      · rintro _ rfl start
        obtain ⟨_, rest', rfl⟩ := encodeEscapes_head start (by decide)
        exact letters.2 ⟨[], rest', rfl⟩
      · rintro _ rfl start
        exact (encodeEscapes_head start (by decide)).1 rfl

theorem uncommented_encodeChar {escaped : Bool} {c : Char} (even : c = '%' → escaped = false) :
    Uncommented escaped (encodeChar c) ∧
      escapedAfter escaped (encodeChar c) = escapedAfter escaped [c] := by
  rcases encodeChar_cases c with rfl | rfl | rfl | ⟨_, percent, same⟩
  · cases escaped <;> exact ⟨rfl, rfl⟩
  · cases escaped <;> exact ⟨rfl, rfl⟩
  · rw [even rfl]
    exact ⟨rfl, rfl⟩
  · rw [same]
    exact ⟨uncommented_of_not_mem (by simpa using Ne.symm percent), rfl⟩

/-- The mark for escapes moves through a text and its written form alike, so no percent sign that
is written starts a comment. -/
theorem uncommented_encodeEscapes {escaped : Bool} {text : Text}
    (even : ∀ before after, text = before ++ '%' :: after → escapedAfter escaped before = false) :
    Uncommented escaped (encodeEscapes text) := by
  induction text generalizing escaped with
  | nil => rfl
  | cons c rest ih =>
    have percent : c = '%' → escaped = false := fun percent =>
      even [] rest (by rw [percent]; rfl)
    obtain ⟨here, same⟩ := uncommented_encodeChar percent
    rw [encodeEscapes_cons, uncommented_append_iff, same]
    exact ⟨here, ih fun before after split => even (c :: before) after (by rw [split]; rfl)⟩

theorem Writable.uncommented {text : Text} (writable : Writable text) :
    Uncommented false (encodeEscapes text) := by
  refine uncommented_encodeEscapes fun before after split => ?_
  subst split
  have even := writable.percents before.length (by simp) (by simp)
  rw [List.take_left] at even
  rw [escapedAfter_eq, even]
  rfl

end Argument
end DiagramScript
