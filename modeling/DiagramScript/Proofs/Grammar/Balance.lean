import DiagramScript.Proofs.Grammar.Basic

/-! Parentheses among the tokens of a tree. Every piece of an expression closes the parentheses that
it opens and no others, so a count of the open ones is behind it what it was in front of it. -/
namespace DiagramScript

/-- The number of open parentheses after a token. At zero a closing one has no effect. -/
def Token.depthAfter (depth : Nat) : Token → Nat
  | .leftParen => depth + 1
  | .rightParen => depth - 1
  | _ => depth

def Token.depthThrough (depth : Nat) (tokens : List Placed) : Nat :=
  tokens.foldl (fun depth placed => placed.token.depthAfter depth) depth

theorem Token.depthThrough_append (depth : Nat) (left right : List Placed) :
    depthThrough depth (left ++ right) = depthThrough (depthThrough depth left) right :=
  List.foldl_append

/-- The tokens lead back to the number of open parentheses where they start, whatever it is. -/
def Balanced (tokens : List Placed) : Prop := ∀ depth, Token.depthThrough depth tokens = depth

namespace Balanced

variable {token : Token} {position position' : Nat} {tokens left right : List Placed}

theorem nil : Balanced [] := fun _ => rfl

theorem append (first : Balanced left) (second : Balanced right) : Balanced (left ++ right) := by
  intro depth
  rw [Token.depthThrough_append, first, second]

theorem cons (level : ∀ depth, token.depthAfter depth = depth) (rest : Balanced tokens) :
    Balanced (⟨token, position⟩ :: tokens) := by
  intro depth
  change Token.depthThrough (token.depthAfter depth) tokens = depth
  rw [level, rest]

theorem between_parens (inside : Balanced tokens) :
    Balanced (⟨.leftParen, position⟩ :: (tokens ++ [⟨.rightParen, position'⟩])) := by
  intro depth
  change Token.depthThrough (depth + 1) (tokens ++ _) = depth
  rw [Token.depthThrough_append, inside]
  rfl

end Balanced

theorem Token.depthAfter_of_operator? {token : Token} {operator : Operator}
    (stands : token.operator? = some operator) (depth : Nat) : token.depthAfter depth = depth := by
  cases token <;> first | rfl | cases stands

theorem Token.depthAfter_of_sign? {token : Token} {sign : Sign}
    (stands : token.sign? = some sign) (depth : Nat) : token.depthAfter depth = depth := by
  cases token <;> first | rfl | cases stands

namespace Grammar

mutual

theorem sum_balanced {allowed : Nat → Prop} {depth operators : Nat} {tokens : List Placed}
    {tree : Expression} : Sum allowed depth operators tokens tree → Balanced tokens
  | .product inner => product_balanced inner
  | .operator left stands _ right =>
    (sum_balanced left).append
      (.cons (Token.depthAfter_of_operator? stands) (product_balanced right))

theorem product_balanced {allowed : Nat → Prop} {depth operators : Nat} {tokens : List Placed}
    {tree : Expression} : Product allowed depth operators tokens tree → Balanced tokens
  | .operand inner => operand_balanced inner
  | .operator left stands _ right =>
    (product_balanced left).append
      (.cons (Token.depthAfter_of_operator? stands) (operand_balanced right))

theorem operand_balanced {allowed : Nat → Prop} {depth : Nat} {tokens : List Placed}
    {tree : Expression} : Operand allowed depth tokens tree → Balanced tokens
  | .signed _ sign inner => .cons (Token.depthAfter_of_sign? sign) (operand_balanced inner)
  | .power _ inner => power_balanced inner

theorem power_balanced {allowed : Nat → Prop} {depth : Nat} {tokens : List Placed}
    {tree : Expression} : Power allowed depth tokens tree → Balanced tokens
  | .primary inner => primary_balanced inner
  | .raised base stands exponent =>
    (primary_balanced base).append
      (.cons (Token.depthAfter_of_operator? stands) (operand_balanced exponent))

theorem primary_balanced {allowed : Nat → Prop} {depth : Nat} {tokens : List Placed}
    {tree : Expression} : Primary allowed depth tokens tree → Balanced tokens
  | .number => .cons (fun _ => rfl) .nil
  | .imaginary _ => .cons (fun _ => rfl) (.cons (fun _ => rfl) .nil)
  | .unit _ => .cons (fun _ => rfl) .nil
  | .pi => .cons (fun _ => rfl) .nil
  | .group inner => (sum_balanced inner).between_parens
  | .emptyCall => .cons (fun _ => rfl) Balanced.nil.between_parens
  | .call given => .cons (fun _ => rfl) (arguments_balanced given).between_parens

theorem arguments_balanced {allowed : Nat → Prop} {depth : Nat} {tokens : List Placed}
    {trees : List Expression} : Arguments allowed depth tokens trees → Balanced tokens
  | .last only => sum_balanced only
  | .more first others =>
    (sum_balanced first).append (.cons (fun _ => rfl) (arguments_balanced others))

end

end Grammar
end DiagramScript
