import DiagramScript.Expression.Evaluation
import DiagramScript.Proofs.Grammar.Completeness
import Mathlib.Tactic.Ring

/-! Heights of accepted trees. The limit counts the operators of a chain for what stands to their
right, while the tree of the chain grows to the left: its first operand is read before any of them
is counted. So a tree can be higher than the limit. The bound that holds is quadratic in the limit,
`Grammar.height_le`, and it is reached. -/
namespace DiagramScript

namespace Expression

mutual

def height : Expression → Nat
  | .literal _ _ => 1
  | .signed _ operand _ => operand.height + 1
  | .binary _ left right _ => max left.height right.height + 1
  | .call _ arguments _ => heightAll arguments + 1

def heightAll : List Expression → Nat
  | [] => 0
  | first :: others => max first.height (heightAll others)

end

end Expression

namespace Grammar

open DiagramScript.Parser

/- With a given room, which is the number of levels left, an operand is at most
`room * room - room + 1` high. Every operator of a chain adds one to the height of its first
operand, and there are fewer operators than levels, for each of the two kinds of chains. The right
operands have less room than the chain, so they are never higher. -/
mutual

theorem sum_height {limit room depth operators : Nat} {tokens : List Placed} {tree : Expression}
    (level : depth + room = limit) : Sum (· < limit) depth operators tokens tree →
    operators < room ∧ tree.height ≤ operators + room * room
  | .product inner => by
    obtain ⟨fewer, bound⟩ := product_height level inner
    exact ⟨by omega, by omega⟩
  | @Sum.operator _ _ operators further _ _ _ _ _ _ _ left _ _ right => by
    have entered := product_allowed right
    have level' : depth + operators + 1 + (room - operators - 1) = limit := by omega
    obtain ⟨_, bound⟩ := sum_height level left
    obtain ⟨_, bound'⟩ := product_height level' right
    have smaller : (room - operators - 1) * (room - operators - 1) ≤ room * room :=
      Nat.mul_self_le_mul_self (by omega)
    exact ⟨by omega, by rw [Expression.height]; omega⟩

theorem product_height {limit room depth operators : Nat} {tokens : List Placed}
    {tree : Expression} (level : depth + room = limit) :
    Product (· < limit) depth operators tokens tree →
    operators < room ∧ tree.height + room ≤ operators + room * room + 1
  | .operand inner => by
    have entered := operand_allowed inner
    have bound := operand_height level inner
    exact ⟨by omega, by omega⟩
  | @Product.operator _ _ operators _ _ _ _ _ _ _ left _ _ right => by
    have entered := operand_allowed right
    have level' : depth + operators + 1 + (room - operators - 1) = limit := by omega
    obtain ⟨_, bound⟩ := product_height level left
    have bound' := operand_height level' right
    have smaller : (room - operators - 1) * (room - operators - 1) < room * room :=
      Nat.mul_self_lt_mul_self (by omega)
    exact ⟨by omega, by rw [Expression.height]; omega⟩

theorem operand_height {limit room depth : Nat} {tokens : List Placed} {tree : Expression}
    (level : depth + room = limit) : Operand (· < limit) depth tokens tree →
    tree.height + room ≤ room * room + 1
  | .signed entered _ inner => by
    have further := operand_allowed inner
    obtain ⟨inside, rfl⟩ : ∃ inside, room = inside + 1 := ⟨room - 1, by omega⟩
    have bound := operand_height (by omega : depth + 1 + inside = limit) inner
    rw [Nat.add_one_mul_add_one, Expression.height]
    omega
  | .power entered inner => by
    obtain ⟨inside, rfl⟩ : ∃ inside, room = inside + 1 := ⟨room - 1, by omega⟩
    have bound := power_height (by omega : depth + 1 + inside = limit) inner
    rw [Nat.add_one_mul_add_one]
    omega

theorem power_height {limit room depth : Nat} {tokens : List Placed} {tree : Expression}
    (level : depth + room = limit) : Power (· < limit) depth tokens tree →
    tree.height ≤ room * room + room + 1
  | .primary inner => by
    have bound := primary_height level inner
    omega
  | .raised base _ exponent => by
    have entered := operand_allowed exponent
    have bound := primary_height level base
    have bound' := operand_height level exponent
    rw [Expression.height]
    omega

theorem primary_height {limit room depth : Nat} {tokens : List Placed} {tree : Expression}
    (level : depth + room = limit) : Primary (· < limit) depth tokens tree →
    tree.height = 1 ∨ tree.height ≤ room * room + room
  | .number => .inl rfl
  | .imaginary _ => .inl rfl
  | .unit _ => .inl rfl
  | .pi => .inl rfl
  | .group inner => by
    obtain ⟨_, bound⟩ := sum_height level inner
    omega
  | .emptyCall => .inl rfl
  | .call given => by
    have bound := arguments_height level given
    rw [Expression.height]
    omega

theorem arguments_height {limit room depth : Nat} {tokens : List Placed}
    {trees : List Expression} (level : depth + room = limit) :
    Arguments (· < limit) depth tokens trees →
    Expression.heightAll trees < room * room + room
  | .last only => by
    obtain ⟨_, bound⟩ := sum_height level only
    rw [Expression.heightAll, Expression.heightAll]
    omega
  | .more first others => by
    obtain ⟨_, bound⟩ := sum_height level first
    have bound' := arguments_height level others
    rw [Expression.heightAll]
    omega

end

/-- An accepted tree is at most quadratically higher than the limit. -/
theorem height_le {tokens : List Placed} {tree : Expression}
    (parsed : Expression.ofTokens tokens = .ok tree) :
    tree.height ≤ maxDepth * (maxDepth + 1) - 1 := by
  obtain ⟨operators, derived⟩ := ofTokens_sound parsed
  obtain ⟨fewer, bound⟩ := sum_height (Nat.zero_add maxDepth) derived
  rw [Nat.mul_add, Nat.mul_one]
  omega

/-- A sum whose first operand has used up all levels is one higher than the limit. -/
theorem signs_before_sum_exceed_limit :
    ∃ tokens tree, tokenize (List.replicate 255 '-' ++ "1+1".toList) = .ok tokens ∧
      Expression.ofTokens tokens = .ok tree ∧ tree.height = maxDepth + 1 := by
  have heights : (Expression.read (List.replicate 255 '-' ++ "1+1".toList)).map
      Expression.height = .ok 257 := by decide +kernel
  cases read : Expression.read (List.replicate 255 '-' ++ "1+1".toList) with
  | error cause =>
    rw [read] at heights
    cases heights
  | ok tree =>
    rw [read] at heights
    obtain ⟨tokens, cut, parsed⟩ := bind_eq_ok_iff.mp read
    exact ⟨tokens, tree, cut, parsed, Except.ok.inj heights⟩

/- The bound is reached by going down through the first operand of a chain every time, with chains
as long as the level allows. Positions do not matter here, so they are all zero. -/

def one : List Placed := [⟨.number .one, 0⟩]

def oneTree : Expression := .literal (Complex.ofReal .one) 0

def chainOf (token : Token) (first : List Placed) : Nat → List Placed
  | 0 => first
  | operators + 1 => chainOf token first operators ++ ⟨token, 0⟩ :: one

def chainTree (operator : Operator) (first : Expression) : Nat → Expression
  | 0 => first
  | operators + 1 => .binary operator (chainTree operator first operators) oneTree 0

def raisedCall (argument : List Placed) : List Placed :=
  ⟨.name Builtin.sqrt.name, 0⟩ :: ⟨.leftParen, 0⟩ :: (argument ++ [⟨.rightParen, 0⟩]) ++
    ⟨.caret, 0⟩ :: one

def raisedCallTree (argument : Expression) : Expression :=
  .binary .pow (.call Builtin.sqrt.name [argument] 0) oneTree 0

def deepSum : Nat → List Placed
  | 0 => one
  | levels + 1 =>
    chainOf .plus (chainOf .star (raisedCall (deepSum levels)) (levels + 1)) (levels + 1)

def deepTree : Nat → Expression
  | 0 => oneTree
  | levels + 1 =>
    chainTree .add (chainTree .mul (raisedCallTree (deepTree levels)) (levels + 1)) (levels + 1)

theorem le_height_chainTree (operator : Operator) (first : Expression) (operators : Nat) :
    first.height + operators ≤ (chainTree operator first operators).height := by
  induction operators with
  | zero => exact Nat.le_refl _
  | succ operators ih =>
    rw [chainTree, Expression.height]
    omega

theorem le_height_deepTree (levels : Nat) :
    (levels + 1) * (levels + 2) - 1 ≤ (deepTree levels).height := by
  induction levels with
  | zero => exact Nat.le_refl _
  | succ levels ih =>
    have sums := le_height_chainTree .add
      (chainTree .mul (raisedCallTree (deepTree levels)) (levels + 1)) (levels + 1)
    have products := le_height_chainTree .mul (raisedCallTree (deepTree levels)) (levels + 1)
    have raised : (deepTree levels).height + 2 ≤ (raisedCallTree (deepTree levels)).height := by
      simp only [raisedCallTree, Expression.height, Expression.heightAll]
      omega
    have step : (levels + 1 + 1) * (levels + 1 + 2) =
        (levels + 1) * (levels + 2) + 2 * levels + 4 := by ring
    rw [deepTree, step]
    omega

section

variable {limit depth operators : Nat} {first : List Placed} {tree : Expression}

theorem one_operand (entered : depth < limit) : Operand (· < limit) depth one oneTree :=
  .power entered (.primary .number)

theorem product_chainOf (operand : Operand (· < limit) depth first tree)
    (within : depth + operators < limit) :
    Product (· < limit) depth operators (chainOf .star first operators)
      (chainTree .mul tree operators) := by
  induction operators with
  | zero => exact .operand operand
  | succ operators ih => exact .operator (ih (by omega)) rfl rfl (one_operand within)

theorem sum_chainOf {further : Nat} (product : Product (· < limit) depth further first tree)
    (within : depth + operators < limit) :
    Sum (· < limit) depth operators (chainOf .plus first operators)
      (chainTree .add tree operators) := by
  induction operators with
  | zero => exact .product product
  | succ operators ih =>
    exact .operator (ih (by omega)) rfl rfl (.operand (one_operand within))

theorem sum_deepSum {levels : Nat} (within : depth + levels < limit) :
    Sum (· < limit) depth levels (deepSum levels) (deepTree levels) := by
  induction levels generalizing depth with
  | zero => exact .product (.operand (one_operand within))
  | succ levels ih =>
    have argument : Sum (· < limit) (depth + 1) levels (deepSum levels) (deepTree levels) :=
      ih (by omega)
    have operand : Operand (· < limit) depth (raisedCall (deepSum levels))
        (raisedCallTree (deepTree levels)) :=
      .power (by omega) (.raised (.call (.last argument)) rfl (one_operand (by omega)))
    exact sum_chainOf (product_chainOf operand within) within

end

/-- The bound on the height is reached. -/
theorem deepSum_reaches_bound :
    ∃ tree, Expression.ofTokens (deepSum 255) = .ok tree ∧
      tree.height = maxDepth * (maxDepth + 1) - 1 := by
  have parsed : Expression.ofTokens (deepSum 255) = .ok (deepTree 255) :=
    ofTokens_of_limited ⟨255, sum_deepSum (by decide)⟩
  exact ⟨_, parsed, Nat.le_antisymm (height_le parsed) (le_height_deepTree 255)⟩

end Grammar
end DiagramScript
