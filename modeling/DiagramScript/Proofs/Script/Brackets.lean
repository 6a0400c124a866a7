import DiagramScript.Proofs.Expression.Tiling
import DiagramScript.Proofs.Grammar.Balance
import DiagramScript.Proofs.Script.OneLine

/-! Coordinates in brackets. The comma between the components is found by counting brackets of all
kinds, before anything is read as an expression. An expression with a value has no comma and closes
exactly the parentheses that it opens, so the count finds the comma between two of them:
`Argument.coordinate_between_brackets`. -/
namespace DiagramScript

namespace Argument

def depthThrough (depth : Nat) (text : Text) : Nat :=
  text.foldl depthAfter depth

theorem depthThrough_append (depth : Nat) (left right : Text) :
    depthThrough depth (left ++ right) = depthThrough (depthThrough depth left) right :=
  List.foldl_append

def brackets : List Char := ['(', ')', '[', ']']

theorem depthAfter_of_not_mem {c : Char} (level : c ∉ brackets) (depth : Nat) :
    depthAfter depth c = depth := by
  simp only [brackets, List.mem_cons, List.not_mem_nil, or_false, not_or] at level
  simp [depthAfter, level]

theorem depthThrough_of_not_mem {text : Text} (level : ∀ c ∈ text, c ∉ brackets) (depth : Nat) :
    depthThrough depth text = depth := by
  induction text generalizing depth with
  | nil => rfl
  | cons c rest ih =>
    obtain ⟨here, later⟩ := List.forall_mem_cons.mp level
    change depthThrough (depthAfter depth c) rest = depth
    rw [depthAfter_of_not_mem here, ih later]

theorem not_mem_brackets {c : Char} (plain : (c.isDigit = true ∨ c ∈ ['+', '-', '.', 'e', 'E']) ∨
    continuesName c = true ∨ isLayout c = true) : c ∉ brackets := by
  intro bracket
  simp only [brackets, List.mem_cons, List.not_mem_nil, or_false] at bracket
  rcases bracket with rfl | rfl | rfl | rfl <;> simp [continuesName, isLayout] at plain

theorem depthThrough_of_layout {gap : Text} (layout : ∀ c ∈ gap, isLayout c = true)
    (depth : Nat) : depthThrough depth gap = depth :=
  depthThrough_of_not_mem (fun c member => not_mem_brackets (.inr (.inr (layout c member)))) depth

theorem depthThrough_of_belongs {piece : Text} {token : Token}
    (belongs : Lexeme.Belongs piece (some token)) (depth : Nat) :
    depthThrough depth piece = token.depthAfter depth := by
  cases belongs with
  | number numeral =>
    refine depthThrough_of_not_mem (fun c member => ?_) depth
    exact not_mem_brackets (.inl (Decimal.numeral_characters numeral c member))
  | name starts continues =>
    refine depthThrough_of_not_mem (List.forall_mem_cons.mpr ⟨?_, fun c member => ?_⟩) depth
    · exact not_mem_brackets (.inr (.inl (continuesName_of_startsName starts)))
    · exact not_mem_brackets (.inr (.inl (continues c member)))
  | symbol member =>
    simp only [Lexeme.symbols, List.mem_cons, Prod.mk.injEq, List.not_mem_nil, or_false] at member
    rcases member with ⟨rfl, rfl⟩ | ⟨rfl, rfl⟩ | ⟨rfl, rfl⟩ | ⟨rfl, rfl⟩ | ⟨rfl, rfl⟩ |
      ⟨rfl, rfl⟩ | ⟨rfl, rfl⟩ | ⟨rfl, rfl⟩ | ⟨rfl, rfl⟩ <;> rfl

theorem depthThrough_of_tiled {position : Nat} {text : Text} {tokens : List Placed}
    (tiled : Tiled position text tokens) (depth : Nat) :
    depthThrough depth text = Token.depthThrough depth tokens := by
  induction tiled generalizing depth with
  | layout layout => exact depthThrough_of_layout layout depth
  | token layout longest _ ih =>
    rw [depthThrough_append, depthThrough_append, depthThrough_of_layout layout,
      depthThrough_of_belongs longest.belongs, ih]
    rfl

theorem depthThrough_of_value {text : Text} {v : Value} (evaluates : value text = .ok v)
    (depth : Nat) : depthThrough depth text = depth := by
  have evaluates' := value_eq_ok_iff.mp evaluates
  simp only [Expression.value, Expression.read, bind_eq_ok_iff] at evaluates'
  obtain ⟨tree, ⟨tokens, tokenized, parsed⟩, _⟩ := evaluates'
  obtain ⟨operators, derived⟩ := Grammar.ofTokens_sound parsed
  rw [depthThrough_of_tiled (.of_tokenizeFrom tokenized), Grammar.sum_balanced derived]

theorem comma_not_mem_of_value {text : Text} {v : Value} (evaluates : value text = .ok v) :
    ',' ∉ text :=
  (Expression.unreserved_of_value (value_eq_ok_iff.mp evaluates)).not_mem (by decide)

theorem componentsFrom_ne_nil (depth : Nat) (text : Text) : componentsFrom depth text ≠ [] := by
  rcases text with _ | ⟨c, rest⟩
  · exact List.cons_ne_nil _ _
  · rw [componentsFrom]
    split
    · exact List.cons_ne_nil _ _
    · split <;> exact List.cons_ne_nil _ _

theorem intercalate_componentsFrom (depth : Nat) (text : Text) :
    List.intercalate [','] (componentsFrom depth text) = text := by
  induction text generalizing depth with
  | nil => rfl
  | cons c rest ih =>
    rw [componentsFrom]
    split
    · rename_i comma
      obtain ⟨first, others, parts⟩ := List.exists_cons_of_ne_nil (componentsFrom_ne_nil 0 rest)
      have joined := ih 0
      rw [parts] at joined ⊢
      rw [comma.1, ← joined]
      rfl
    · have joined := ih (depthAfter depth c)
      obtain ⟨first, others, parts⟩ :=
        List.exists_cons_of_ne_nil (componentsFrom_ne_nil (depthAfter depth c) rest)
      rw [parts] at joined ⊢
      rw [← joined]
      cases others <;> rfl

theorem componentsFrom_of_comma_not_mem {text : Text} (whole : ',' ∉ text) (depth : Nat) :
    componentsFrom depth text = [text] := by
  induction text generalizing depth with
  | nil => rfl
  | cons c rest ih =>
    obtain ⟨here, later⟩ := not_or.mp (mt List.mem_cons.mpr whole)
    rw [componentsFrom, if_neg fun comma => here comma.1.symm, ih later]

theorem componentsFrom_append {front : Text} {depth : Nat} (whole : ',' ∉ front)
    (closed : depthThrough depth front = 0) (rest : Text) :
    componentsFrom depth (front ++ ',' :: rest) = front :: componentsFrom 0 rest := by
  induction front generalizing depth with
  | nil =>
    have none : depth = 0 := closed
    rw [List.nil_append, componentsFrom, if_pos ⟨rfl, none⟩]
  | cons c front ih =>
    obtain ⟨here, later⟩ := not_or.mp (mt List.mem_cons.mpr whole)
    rw [List.cons_append, componentsFrom, if_neg fun comma => here comma.1.symm,
      ih later closed]

theorem components_of_values {x y : Text} {v w : Value} (first : value x = .ok v)
    (second : value y = .ok w) : components (x ++ ',' :: y) = [x, y] := by
  rw [components, componentsFrom_append (comma_not_mem_of_value first)
    (depthThrough_of_value first 0),
    componentsFrom_of_comma_not_mem (comma_not_mem_of_value second)]

theorem coordinate_of_brackets (bindings : Bindings) (inner : Text) :
    coordinate bindings ('[' :: (inner ++ [']'])) = pair inner := by
  have trimmed : Text.trim ('[' :: (inner ++ [']'])) = '[' :: (inner ++ [']']) :=
    Text.trim_cons_append rfl inner (by decide) (List.cons_ne_nil _ _)
  have closed : ([']'] : Text).isSuffixOf? (inner ++ [']']) = some inner :=
    List.isSuffixOf?_eq_some_iff_append_eq.mpr rfl
  rw [coordinate, trimmed, coordinateTrimmed, closed]

theorem pair_eq_ok_iff {inner : Text} {place : Coordinate} :
    pair inner = .ok place ↔ ∃ x y v w, inner = x ++ ',' :: y ∧ value x = .ok v ∧
      value y = .ok w ∧ place = ⟨v.re, w.re⟩ := by
  constructor
  · intro accepted
    unfold pair at accepted
    split at accepted
    · rename_i x y parts
      simp only [bind_eq_ok_iff] at accepted
      obtain ⟨v, first, w, second, same⟩ := accepted
      cases same
      have joined := intercalate_componentsFrom 0 inner
      rw [← components, parts] at joined
      exact ⟨x, y, v, w, by simpa using joined.symm, first, second, rfl⟩
    · cases accepted
  · rintro ⟨x, y, v, w, rfl, first, second, rfl⟩
    rw [pair, components_of_values first second]
    simp [first, second, bind, Except.bind]

/-- A coordinate in brackets is accepted exactly when what is between the brackets is two
expressions with a comma between them. There is then only one such comma, the place has the real
parts of their values, and the bindings do not matter. -/
theorem coordinate_between_brackets (bindings : Bindings) (inner : Text) :
    (∀ place, coordinate bindings ('[' :: (inner ++ [']'])) = .ok place ↔
      ∃ x y v w, inner = x ++ ',' :: y ∧ value x = .ok v ∧ value y = .ok w ∧
        place = ⟨v.re, w.re⟩) ∧
    (∀ x y v w x' y' v' w', inner = x ++ ',' :: y → value x = .ok v → value y = .ok w →
      inner = x' ++ ',' :: y' → value x' = .ok v' → value y' = .ok w' → x = x' ∧ y = y') ∧
    ∀ bindings', coordinate bindings' ('[' :: (inner ++ [']'])) =
      coordinate bindings ('[' :: (inner ++ [']'])) := by
  refine ⟨fun place => ?_, ?_, fun bindings' => ?_⟩
  · rw [coordinate_of_brackets, pair_eq_ok_iff]
  · intro x y v w x' y' v' w' split first second split' first' second'
    have parts := components_of_values first second
    have parts' := components_of_values first' second'
    rw [← split] at parts
    rw [← split', parts] at parts'
    simpa using parts'
  · rw [coordinate_of_brackets, coordinate_of_brackets]

theorem coordinate_between_brackets_sqrt :
    coordinate .empty "[sqrt((4)), (1 + 1) * 2i]".toList =
        .ok ⟨.one + .one, .zero false⟩ ∧
      ∃ x y v w, "sqrt((4)), (1 + 1) * 2i".toList = x ++ ',' :: y ∧ value x = .ok v ∧
        value y = .ok w ∧ (⟨.one + .one, .zero false⟩ : Coordinate) = ⟨v.re, w.re⟩ := by
  have accepted : coordinate .empty ('[' :: ("sqrt((4)), (1 + 1) * 2i".toList ++ [']'])) =
      .ok ⟨.one + .one, .zero false⟩ := by decide +kernel
  exact ⟨accepted, ((coordinate_between_brackets .empty _).1 _).mp accepted⟩

end Argument
end DiagramScript
