import DiagramScript.Text.Basic

/-! Values read from the front of a text, with the characters that they took and those left over. -/
namespace DiagramScript

/-- A value read from the front of a text. -/
structure Taken (α : Type) where
  value : α
  text : Text
  rest : Text

namespace Taken

/-- The characters taken and left over make up the input. -/
def Splits {α : Type} (taken : Taken α) (input : Text) : Prop :=
  taken.text ++ taken.rest = input

def run (p : Char → Bool) (input : Text) : Taken Text :=
  ⟨input.takeWhile p, input.takeWhile p, input.dropWhile p⟩

theorem run_splits (p : Char → Bool) (input : Text) : (run p input).Splits input :=
  List.takeWhile_append_dropWhile

def behind {α β : Type} (c : Char) (f : α → β) (taken : Taken α) : Taken β :=
  ⟨f taken.value, c :: taken.text, taken.rest⟩

theorem behind_splits {α β : Type} {taken : Taken α} {input : Text} (c : Char) (f : α → β)
    (splits : taken.Splits input) : (taken.behind c f).Splits (c :: input) := by
  simpa [Splits, behind] using splits

end Taken
end DiagramScript
