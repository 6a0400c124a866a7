/-! Inversion of steps that can fail. -/
namespace DiagramScript

variable {ε α β : Type}

theorem bind_eq_ok_iff {first : Except ε α} {next : α → Except ε β} {result : β} :
    first >>= next = .ok result ↔ ∃ value, first = .ok value ∧ next value = .ok result := by
  cases first with
  | error cause =>
    constructor
    · intro impossible; cases impossible
    · rintro ⟨value, impossible, _⟩; cases impossible
  | ok value =>
    constructor
    · intro succeeded; exact ⟨value, rfl, succeeded⟩
    · rintro ⟨value', same, succeeded⟩; cases same; exact succeeded

theorem bind_eq_error_iff {first : Except ε α} {next : α → Except ε β} {cause : ε} :
    first >>= next = .error cause ↔
      first = .error cause ∨ ∃ value, first = .ok value ∧ next value = .error cause := by
  cases first with
  | error cause' =>
    constructor
    · intro failed; cases failed; exact .inl rfl
    · rintro (failed | ⟨value, impossible, _⟩)
      · cases failed; rfl
      · cases impossible
  | ok value =>
    constructor
    · intro failed; exact .inr ⟨value, rfl, failed⟩
    · rintro (impossible | ⟨value', same, failed⟩)
      · cases impossible
      · cases same; exact failed

end DiagramScript
