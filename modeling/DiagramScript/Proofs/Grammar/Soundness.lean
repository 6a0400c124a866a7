import DiagramScript.Proofs.Grammar.Basic
import DiagramScript.Proofs.Outcome

/-! Soundness of the parser: the tokens that it reads have a derivation of the tree that it gives.
The room of the parser and the depth of the derivation add up to the limit throughout. -/
namespace DiagramScript.Grammar
open DiagramScript.Parser

/-- What the parser reads stands at the front of the tokens and is derived. -/
def Sound {α : Type} (parser : Parser α) (derived : List Placed → α → Prop) : Prop :=
  ∀ tokens value rest, parser tokens = .ok (value, rest) →
    ∃ read, tokens = read ++ rest ∧ derived read value

theorem nextOperator?_eq_some {wanted : Operator → Bool} {tokens rest : List Placed}
    {operator : Operator} {position : Nat}
    (found : nextOperator? wanted tokens = some (operator, position, rest)) :
    ∃ token, tokens = ⟨token, position⟩ :: rest ∧ token.operator? = some operator ∧
      wanted operator = true := by
  cases tokens with
  | nil => cases found
  | cons first others =>
    simp only [nextOperator?] at found
    split at found
    · rename_i stands
      split at found
      · rename_i isWanted
        cases found
        exact ⟨first.token, rfl, stands, isWanted⟩
      · cases found
    · cases found

theorem chain_sound {wanted : Operator → Bool} {operand : Nat → Parser Expression}
    {Chained Linked : Nat → List Placed → Expression → Prop} {depth limit : Nat}
    (extend : ∀ {operators left right tree tree' token operator position},
      Chained operators left tree → token.operator? = some operator → wanted operator = true →
      Linked (depth + operators + 1) right tree' →
      Chained (operators + 1) (left ++ ⟨token, position⟩ :: right)
        (.binary operator tree tree' position))
    {room operators : Nat} {left tokens rest : List Placed} {tree final : Expression}
    (links : ∀ deeper inner, inner ≤ room → deeper + inner = limit →
      Sound (operand inner) (Linked deeper))
    (level : depth + operators + room = limit) (chained : Chained operators left tree)
    (parsed : chain wanted operand room tree tokens = .ok (final, rest)) :
    ∃ read operators', tokens = read ++ rest ∧ Chained operators' (left ++ read) final := by
  induction room generalizing operators left tree tokens with
  | zero =>
    simp only [chain] at parsed
    split at parsed
    · cases parsed
    · cases parsed
      exact ⟨[], operators, rfl, by simpa using chained⟩
  | succ room ih =>
    simp only [chain] at parsed
    split at parsed
    · rename_i operator position others found
      obtain ⟨token, rfl, stands, isWanted⟩ := nextOperator?_eq_some found
      obtain ⟨⟨tree', others'⟩, parsedRight, parsedRest⟩ := bind_eq_ok_iff.mp parsed
      obtain ⟨right, rfl, linked⟩ := links (depth + operators + 1) room (Nat.le_succ room)
        (by omega) _ _ _ parsedRight
      have longer : Chained (operators + 1) (left ++ ⟨token, position⟩ :: right)
          (.binary operator tree tree' position) := extend chained stands isWanted linked
      obtain ⟨read, operators', rfl, chained'⟩ := ih
        (fun deeper inner small => links deeper inner (Nat.le_succ_of_le small))
        (by omega) longer parsedRest
      exact ⟨⟨token, position⟩ :: (right ++ read), operators', by simp, by simpa using chained'⟩
    · cases parsed
      exact ⟨[], operators, rfl, by simpa using chained⟩

theorem chained_sound {wanted : Operator → Bool} {operand : Nat → Parser Expression}
    {Chained Linked : Nat → List Placed → Expression → Prop} {depth limit room : Nat}
    (first : ∀ {tokens tree}, Linked depth tokens tree → Chained 0 tokens tree)
    (extend : ∀ {operators left right tree tree' token operator position},
      Chained operators left tree → token.operator? = some operator → wanted operator = true →
      Linked (depth + operators + 1) right tree' →
      Chained (operators + 1) (left ++ ⟨token, position⟩ :: right)
        (.binary operator tree tree' position))
    (links : ∀ deeper inner, inner ≤ room → deeper + inner = limit →
      Sound (operand inner) (Linked deeper))
    (level : depth + room = limit) :
    Sound (chained wanted operand room) fun read tree =>
      ∃ operators, Chained operators read tree := by
  intro tokens tree rest parsed
  obtain ⟨⟨tree', others⟩, parsedFirst, parsedRest⟩ := bind_eq_ok_iff.mp parsed
  obtain ⟨left, rfl, linked⟩ := links depth room (Nat.le_refl room) level _ _ _ parsedFirst
  obtain ⟨read, operators, rfl, chained⟩ :=
    chain_sound extend links level (first linked) parsedRest
  exact ⟨left ++ read, by simp, operators, chained⟩

section

variable {operand : Nat → Parser Expression} {allowed : Nat → Prop} {limit room depth : Nat}

theorem product_sound
    (operands : ∀ deeper inner, inner ≤ room → deeper + inner = limit →
      Sound (operand inner) (Operand allowed deeper))
    (level : depth + room = limit) :
    Sound (product operand room) fun read tree =>
      ∃ operators, Product allowed depth operators read tree :=
  chained_sound .operand .operator operands level

theorem sum_sound
    (operands : ∀ deeper inner, inner ≤ room → deeper + inner = limit →
      Sound (operand inner) (Operand allowed deeper))
    (level : depth + room = limit) :
    Sound (sum operand room) fun read tree =>
      ∃ operators, Sum allowed depth operators read tree := by
  have products : ∀ deeper inner, inner ≤ room → deeper + inner = limit →
      Sound (product operand inner) fun read tree =>
        ∃ operators, Product allowed deeper operators read tree := by
    intro deeper inner small level'
    exact product_sound
      (fun deeper' inner' small' => operands deeper' inner' (Nat.le_trans small' small)) level'
  refine chained_sound ?_ ?_ products level
  · rintro tokens tree ⟨operators, product⟩
    exact .product product
  · rintro operators left right tree tree' token operator position sum stands additive
      ⟨further, product⟩
    exact .operator sum stands additive product

end

section

variable {allowed : Nat → Prop} {depth : Nat} {inner : Parser Expression}

theorem argumentsFrom_sound
    (sound : Sound inner fun read tree => ∃ operators, Sum allowed depth operators read tree)
    (rounds : Nat) :
    Sound (argumentsFrom inner rounds) fun read trees => ∃ given position,
      read = given ++ [⟨.rightParen, position⟩] ∧ Arguments allowed depth given trees := by
  induction rounds with
  | zero => intro tokens trees rest parsed; cases parsed
  | succ rounds ih =>
    intro tokens trees rest parsed
    obtain ⟨⟨tree, others⟩, parsedFirst, parsedRest⟩ := bind_eq_ok_iff.mp parsed
    obtain ⟨read, rfl, operators, sum⟩ := sound _ _ _ parsedFirst
    rcases others with _ | ⟨⟨token, position⟩, others⟩
    · cases parsedRest
    · dsimp only at parsedRest
      split at parsedRest
      · obtain ⟨⟨trees', others'⟩, parsedOthers, done⟩ := bind_eq_ok_iff.mp parsedRest
        cases done
        obtain ⟨_, rfl, given, closing, rfl, derived⟩ := ih _ _ _ parsedOthers
        exact ⟨read ++ ⟨.comma, position⟩ :: (given ++ [⟨.rightParen, closing⟩]), by simp,
          read ++ ⟨.comma, position⟩ :: given, closing, by simp, .more sum derived⟩
      · cases parsedRest
        exact ⟨read ++ [⟨.rightParen, position⟩], by simp, read, position, rfl, .last sum⟩
      · cases parsedRest

theorem literal_sound {value : Binary64} {position : Nat} {tokens rest : List Placed}
    {tree : Expression} (parsed : literal value position tokens = .ok (tree, rest)) :
    ∃ read, ⟨.number value, position⟩ :: tokens = read ++ rest ∧
      Primary allowed depth read tree := by
  unfold literal at parsed
  split at parsed
  · split at parsed
    · rename_i unit
      cases parsed
      exact ⟨_, rfl, .imaginary unit⟩
    · cases parsed
  · cases parsed
    exact ⟨_, rfl, .number⟩

theorem named_sound
    (sound : Sound inner fun read tree => ∃ operators, Sum allowed depth operators read tree)
    {name : Text} {position : Nat} {tokens rest : List Placed} {tree : Expression}
    (parsed : named inner name position tokens = .ok (tree, rest)) :
    ∃ read, ⟨.name name, position⟩ :: tokens = read ++ rest ∧
      Primary allowed depth read tree := by
  unfold named at parsed
  split at parsed
  · rename_i opening others
    obtain ⟨⟨trees, others'⟩, parsedArguments, done⟩ := bind_eq_ok_iff.mp parsed
    cases done
    unfold arguments at parsedArguments
    split at parsedArguments
    · cases parsedArguments
      exact ⟨_, rfl, .emptyCall⟩
    · obtain ⟨_, rfl, given, closing, rfl, derived⟩ :=
        argumentsFrom_sound sound _ _ _ _ parsedArguments
      exact ⟨⟨.name name, position⟩ :: ⟨.leftParen, opening⟩ ::
        (given ++ [⟨.rightParen, closing⟩]), by simp, .call derived⟩
  · split at parsed
    · rename_i unit
      cases parsed
      exact ⟨_, rfl, .unit unit⟩
    · split at parsed
      · rename_i isPi
        subst isPi
        cases parsed
        exact ⟨_, rfl, .pi⟩
      · cases parsed

theorem primary_sound
    (sound : Sound inner fun read tree => ∃ operators, Sum allowed depth operators read tree) :
    Sound (primary inner) (Primary allowed depth) := by
  intro tokens tree rest parsed
  rcases tokens with _ | ⟨⟨token, position⟩, others⟩
  · cases parsed
  · unfold primary at parsed
    dsimp only at parsed
    split at parsed
    · exact literal_sound parsed
    · obtain ⟨⟨tree', others'⟩, parsedInner, closed⟩ := bind_eq_ok_iff.mp parsed
      obtain ⟨read, rfl, operators, sum⟩ := sound _ _ _ parsedInner
      dsimp only at closed
      split at closed
      · rename_i closing others''
        cases closed
        exact ⟨⟨.leftParen, position⟩ :: (read ++ [⟨.rightParen, closing⟩]), by simp, .group sum⟩
      · cases closed
    · exact named_sound sound parsed
    · cases parsed

theorem power_sound {base exponent : Parser Expression}
    (sound : Sound base (Primary allowed depth))
    (sound' : Sound exponent (Operand allowed depth)) :
    Sound (power base exponent) (Power allowed depth) := by
  intro tokens tree rest parsed
  obtain ⟨⟨left, others⟩, parsedBase, parsedRest⟩ := bind_eq_ok_iff.mp parsed
  obtain ⟨read, rfl, primary⟩ := sound _ _ _ parsedBase
  dsimp only at parsedRest
  split at parsedRest
  · rename_i operator position others' found
    obtain ⟨token, rfl, stands, isPower⟩ := nextOperator?_eq_some found
    obtain rfl : operator = .pow := by simpa using isPower
    obtain ⟨⟨right, rest'⟩, parsedExponent, done⟩ := bind_eq_ok_iff.mp parsedRest
    cases done
    obtain ⟨read', rfl, operand⟩ := sound' _ _ _ parsedExponent
    exact ⟨read ++ ⟨token, position⟩ :: read', by simp, .raised primary stands operand⟩
  · cases parsedRest
    exact ⟨read, rfl, .primary primary⟩

end

theorem operandWithin_sound {limit bound depth room : Nat} (enough : room ≤ bound)
    (level : depth + room = limit) :
    Sound (operandWithin bound room) (Operand (· < limit) depth) := by
  induction bound generalizing depth room with
  | zero => intro tokens tree rest parsed; cases parsed
  | succ bound ih =>
    intro tokens tree rest parsed
    rcases room with _ | room
    · cases parsed
    · have entered : depth < limit := by omega
      have inside : ∀ deeper inner, inner ≤ room → deeper + inner = limit →
          Sound (operandWithin bound inner) (Operand (· < limit) deeper) :=
        fun deeper inner small level' => ih (by omega) level'
      unfold operandWithin operandInside at parsed
      split at parsed
      · rename_i position others
        obtain ⟨⟨tree', others'⟩, parsedInner, done⟩ := bind_eq_ok_iff.mp parsed
        cases done
        obtain ⟨read, rfl, operand⟩ :=
          inside (depth + 1) room (Nat.le_refl room) (by omega) _ _ _ parsedInner
        exact ⟨⟨.minus, position⟩ :: read, rfl, .signed entered rfl operand⟩
      · rename_i position others
        obtain ⟨⟨tree', others'⟩, parsedInner, done⟩ := bind_eq_ok_iff.mp parsed
        cases done
        obtain ⟨read, rfl, operand⟩ :=
          inside (depth + 1) room (Nat.le_refl room) (by omega) _ _ _ parsedInner
        exact ⟨⟨.plus, position⟩ :: read, rfl, .signed entered rfl operand⟩
      · have level' : depth + 1 + room = limit := by omega
        obtain ⟨read, rfl, power⟩ :=
          power_sound (primary_sound (sum_sound inside level'))
            (inside (depth + 1) room (Nat.le_refl room) level') _ _ _ parsed
        exact ⟨read, rfl, .power entered power⟩

theorem expressionAt_sound {depth : Nat} (small : depth ≤ maxDepth) :
    Sound (expressionAt depth) fun read tree =>
      ∃ operators, Sum Limited depth operators read tree := by
  have level : depth + (maxDepth - depth) = maxDepth := Nat.add_sub_cancel' small
  exact sum_sound (fun _ _ small' level' => operandWithin_sound small' level') level

theorem ofTokens_sound {tokens : List Placed} {tree : Expression}
    (parsed : Expression.ofTokens tokens = .ok tree) : Derives Limited tokens tree := by
  obtain ⟨⟨tree', rest⟩, parsedSum, complete⟩ := bind_eq_ok_iff.mp parsed
  obtain ⟨read, rfl, derived⟩ := expressionAt_sound (Nat.zero_le maxDepth) _ _ _ parsedSum
  rcases rest with _ | ⟨next, rest⟩
  · cases complete
    simpa [Derives] using derived
  · cases complete

end DiagramScript.Grammar
