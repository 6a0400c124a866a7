import DiagramScript.Expression.Parser

/-! The grammar of expressions as an inductive relation between tokens and trees. It is stated on
whole pieces of the token list, without a notion of what is left over.

    sum      := product | sum ("+" | "-") product
    product  := operand | product ("*" | "/") operand
    operand  := ("-" | "+") operand | power
    power    := primary | primary ("^" | "**") operand
    primary  := number | number unit | unit | "pi" | "(" sum ")" | name "(" [ list ] ")"
    list     := sum | sum "," list

A depth goes along. What follows the k-th operator of a chain is k levels deeper than the chain,
and an operand takes one level for all that is inside it. The relation has the depths at which
operands may stand as a parameter, so the limited grammar and the one without a limit are two
instances of it. -/
namespace DiagramScript

def Token.sign? : Token → Option Sign
  | .minus => some .minus
  | .plus => some .plus
  | _ => none

namespace Grammar

mutual

/-- Sums at a depth, with the number of their own operators. -/
inductive Sum (allowed : Nat → Prop) : (depth operators : Nat) → List Placed → Expression → Prop
  | product {depth operators tokens tree} :
      Product allowed depth operators tokens tree → Sum allowed depth 0 tokens tree
  | operator {depth operators further left right tree tree' token operator position} :
      Sum allowed depth operators left tree →
      token.operator? = some operator → operator.isAdditive = true →
      Product allowed (depth + operators + 1) further right tree' →
      Sum allowed depth (operators + 1) (left ++ ⟨token, position⟩ :: right)
        (.binary operator tree tree' position)

inductive Product (allowed : Nat → Prop) :
    (depth operators : Nat) → List Placed → Expression → Prop
  | operand {depth tokens tree} :
      Operand allowed depth tokens tree → Product allowed depth 0 tokens tree
  | operator {depth operators left right tree tree' token operator position} :
      Product allowed depth operators left tree →
      token.operator? = some operator → operator.isMultiplicative = true →
      Operand allowed (depth + operators + 1) right tree' →
      Product allowed depth (operators + 1) (left ++ ⟨token, position⟩ :: right)
        (.binary operator tree tree' position)

/-- Operands at a depth. This is the only place where the depth matters. -/
inductive Operand (allowed : Nat → Prop) : (depth : Nat) → List Placed → Expression → Prop
  | signed {depth tokens tree token sign position} :
      allowed depth → token.sign? = some sign → Operand allowed (depth + 1) tokens tree →
      Operand allowed depth (⟨token, position⟩ :: tokens) (.signed sign tree position)
  | power {depth tokens tree} :
      allowed depth → Power allowed (depth + 1) tokens tree → Operand allowed depth tokens tree

/-- Operands without a sign in front; the signs of an exponent belong to it. -/
inductive Power (allowed : Nat → Prop) : (depth : Nat) → List Placed → Expression → Prop
  | primary {depth tokens tree} :
      Primary allowed depth tokens tree → Power allowed depth tokens tree
  | raised {depth left right tree tree' token position} :
      Primary allowed depth left tree → token.operator? = some .pow →
      Operand allowed depth right tree' →
      Power allowed depth (left ++ ⟨token, position⟩ :: right) (.binary .pow tree tree' position)

inductive Primary (allowed : Nat → Prop) : (depth : Nat) → List Placed → Expression → Prop
  | number {depth value position} :
      Primary allowed depth [⟨.number value, position⟩]
        (.literal (Complex.ofReal value) position)
  | imaginary {depth value name position position'} : name ∈ Parser.imaginaryUnits →
      Primary allowed depth [⟨.number value, position⟩, ⟨.name name, position'⟩]
        (.literal ⟨.zero false, value⟩ position)
  | unit {depth name position} : name ∈ Parser.imaginaryUnits →
      Primary allowed depth [⟨.name name, position⟩] (.literal Complex.i position)
  | pi {depth position} :
      Primary allowed depth [⟨.name Parser.piName, position⟩]
        (.literal (Complex.ofReal Binary64.pi) position)
  | group {depth operators tokens tree position position'} :
      Sum allowed depth operators tokens tree →
      Primary allowed depth (⟨.leftParen, position⟩ :: (tokens ++ [⟨.rightParen, position'⟩])) tree
  | emptyCall {depth name position position' position''} :
      Primary allowed depth
        [⟨.name name, position⟩, ⟨.leftParen, position'⟩, ⟨.rightParen, position''⟩]
        (.call name [] position)
  | call {depth name tokens trees position position' position''} :
      Arguments allowed depth tokens trees →
      Primary allowed depth (⟨.name name, position⟩ :: ⟨.leftParen, position'⟩ ::
        (tokens ++ [⟨.rightParen, position''⟩])) (.call name trees position)

inductive Arguments (allowed : Nat → Prop) :
    (depth : Nat) → List Placed → List Expression → Prop
  | last {depth operators tokens tree} :
      Sum allowed depth operators tokens tree → Arguments allowed depth tokens [tree]
  | more {depth operators tokens tokens' tree trees position} :
      Sum allowed depth operators tokens tree → Arguments allowed depth tokens' trees →
      Arguments allowed depth (tokens ++ ⟨.comma, position⟩ :: tokens') (tree :: trees)

end

def Derives (allowed : Nat → Prop) (tokens : List Placed) (tree : Expression) : Prop :=
  ∃ operators, Sum allowed 0 operators tokens tree

def Limited (depth : Nat) : Prop := depth < Parser.maxDepth

def Unlimited (_ : Nat) : Prop := True

variable {allowed : Nat → Prop} {depth operators : Nat} {tokens : List Placed}
  {tree : Expression}

theorem primary_head (derived : Primary allowed depth tokens tree) :
    ∃ first others, tokens = first :: others ∧ first.token.sign? = none ∧
      first.token ≠ .rightParen := by
  cases derived <;> exact ⟨_, _, rfl, rfl, Token.noConfusion⟩

theorem power_head (derived : Power allowed depth tokens tree) :
    ∃ first others, tokens = first :: others ∧ first.token.sign? = none ∧
      first.token ≠ .rightParen := by
  cases derived with
  | primary inner => exact primary_head inner
  | raised base =>
    obtain ⟨first, others, rfl, facts⟩ := primary_head base
    exact ⟨first, others ++ _ :: _, rfl, facts⟩

theorem operand_head (derived : Operand allowed depth tokens tree) :
    ∃ first others, tokens = first :: others ∧ first.token ≠ .rightParen := by
  cases derived with
  | signed _ sign =>
    refine ⟨_, _, rfl, ?_⟩
    rintro rfl
    cases sign
  | power _ inner =>
    obtain ⟨first, others, same, _, opens⟩ := power_head inner
    exact ⟨first, others, same, opens⟩

theorem product_head {allowed : Nat → Prop} {depth operators : Nat} {tokens : List Placed}
    {tree : Expression} : Product allowed depth operators tokens tree →
    ∃ first others, tokens = first :: others ∧ first.token ≠ .rightParen
  | .operand inner => operand_head inner
  | .operator left _ _ _ => by
    obtain ⟨first, others, same, opens⟩ := product_head left
    exact ⟨first, others ++ _ :: _, by rw [same, List.cons_append], opens⟩

theorem sum_head {allowed : Nat → Prop} {depth operators : Nat} {tokens : List Placed}
    {tree : Expression} : Sum allowed depth operators tokens tree →
    ∃ first others, tokens = first :: others ∧ first.token ≠ .rightParen
  | .product inner => product_head inner
  | .operator left _ _ _ => by
    obtain ⟨first, others, same, opens⟩ := sum_head left
    exact ⟨first, others ++ _ :: _, by rw [same, List.cons_append], opens⟩

theorem arguments_head {trees : List Expression}
    (derived : Arguments allowed depth tokens trees) :
    ∃ first others, tokens = first :: others ∧ first.token ≠ .rightParen := by
  cases derived with
  | last only => exact sum_head only
  | more first =>
    obtain ⟨next, others, same, opens⟩ := sum_head first
    exact ⟨next, others ++ _ :: _, by rw [same, List.cons_append], opens⟩

theorem primary_length_pos (derived : Primary allowed depth tokens tree) : 0 < tokens.length := by
  obtain ⟨first, others, rfl, _⟩ := primary_head derived
  exact Nat.succ_pos _

theorem power_length_pos (derived : Power allowed depth tokens tree) : 0 < tokens.length := by
  obtain ⟨first, others, rfl, _⟩ := power_head derived
  exact Nat.succ_pos _

theorem operand_allowed (derived : Operand allowed depth tokens tree) : allowed depth := by
  cases derived with
  | signed entered => exact entered
  | power entered => exact entered

theorem product_allowed {allowed : Nat → Prop} {depth operators : Nat} {tokens : List Placed}
    {tree : Expression} : Product allowed depth operators tokens tree → allowed depth
  | .operand inner => operand_allowed inner
  | .operator left _ _ _ => product_allowed left

theorem sum_operators_le {allowed : Nat → Prop} {depth operators : Nat} {tokens : List Placed}
    {tree : Expression} : Sum allowed depth operators tokens tree → operators ≤ tokens.length
  | .product _ => Nat.zero_le _
  | .operator left _ _ _ => by
    have := sum_operators_le left
    simp only [List.length_append, List.length_cons]
    omega

theorem product_operators_le {allowed : Nat → Prop} {depth operators : Nat}
    {tokens : List Placed} {tree : Expression} :
    Product allowed depth operators tokens tree → operators ≤ tokens.length
  | .operand _ => Nat.zero_le _
  | .operator left _ _ _ => by
    have := product_operators_le left
    simp only [List.length_append, List.length_cons]
    omega

/- A piece of `n` tokens reaches at most `n` levels down, since every level costs a token. Below an
operand the token of its own level is spent, hence the stricter bound for powers and primaries. -/
mutual

theorem sum_permitted {allowed permitted : Nat → Prop} {depth operators : Nat}
    {tokens : List Placed} {tree : Expression}
    (within : ∀ level, allowed level → level < depth + tokens.length → permitted level) :
    Sum allowed depth operators tokens tree → Sum permitted depth operators tokens tree
  | .product inner => .product (product_permitted within inner)
  | .operator left stands additive right => by
    have fewer := sum_operators_le left
    simp only [List.length_append, List.length_cons] at within
    exact .operator (sum_permitted (fun level h _ => within level h (by omega)) left) stands
      additive (product_permitted (fun level h _ => within level h (by omega)) right)

theorem product_permitted {allowed permitted : Nat → Prop} {depth operators : Nat}
    {tokens : List Placed} {tree : Expression}
    (within : ∀ level, allowed level → level < depth + tokens.length → permitted level) :
    Product allowed depth operators tokens tree → Product permitted depth operators tokens tree
  | .operand inner => .operand (operand_permitted within inner)
  | .operator left stands multiplicative right => by
    have fewer := product_operators_le left
    simp only [List.length_append, List.length_cons] at within
    exact .operator (product_permitted (fun level h _ => within level h (by omega)) left) stands
      multiplicative (operand_permitted (fun level h _ => within level h (by omega)) right)

theorem operand_permitted {allowed permitted : Nat → Prop} {depth : Nat} {tokens : List Placed}
    {tree : Expression}
    (within : ∀ level, allowed level → level < depth + tokens.length → permitted level) :
    Operand allowed depth tokens tree → Operand permitted depth tokens tree
  | .signed entered sign inner => by
    simp only [List.length_cons] at within
    exact .signed (within depth entered (by omega)) sign
      (operand_permitted (fun level h _ => within level h (by omega)) inner)
  | .power entered inner => by
    have some := power_length_pos inner
    exact .power (within depth entered (by omega))
      (power_permitted (fun level h _ => within level h (by omega)) inner)

theorem power_permitted {allowed permitted : Nat → Prop} {depth : Nat} {tokens : List Placed}
    {tree : Expression}
    (within : ∀ level, allowed level → level + 1 < depth + tokens.length → permitted level) :
    Power allowed depth tokens tree → Power permitted depth tokens tree
  | .primary inner => .primary (primary_permitted within inner)
  | .raised base stands exponent => by
    have some := primary_length_pos base
    simp only [List.length_append, List.length_cons] at within
    exact .raised (primary_permitted (fun level h _ => within level h (by omega)) base)
      stands (operand_permitted (fun level h _ => within level h (by omega)) exponent)

theorem primary_permitted {allowed permitted : Nat → Prop} {depth : Nat} {tokens : List Placed}
    {tree : Expression}
    (within : ∀ level, allowed level → level + 1 < depth + tokens.length → permitted level) :
    Primary allowed depth tokens tree → Primary permitted depth tokens tree
  | .number => .number
  | .imaginary unit => .imaginary unit
  | .unit unit => .unit unit
  | .pi => .pi
  | .group inner => by
    simp only [List.length_append, List.length_cons] at within
    exact .group (sum_permitted (fun level h _ => within level h (by omega)) inner)
  | .emptyCall => .emptyCall
  | .call given => by
    simp only [List.length_append, List.length_cons] at within
    exact .call (arguments_permitted (fun level h _ => within level h (by omega)) given)

theorem arguments_permitted {allowed permitted : Nat → Prop} {depth : Nat}
    {tokens : List Placed} {trees : List Expression}
    (within : ∀ level, allowed level → level < depth + tokens.length → permitted level) :
    Arguments allowed depth tokens trees → Arguments permitted depth tokens trees
  | .last only => .last (sum_permitted within only)
  | .more first others => by
    simp only [List.length_append, List.length_cons] at within
    exact .more (sum_permitted (fun level h _ => within level h (by omega)) first)
      (arguments_permitted (fun level h _ => within level h (by omega)) others)

end

/-- As many levels as there are tokens are always enough. -/
theorem derives_below_length (derived : Derives Unlimited tokens tree) :
    Derives (· < tokens.length) tokens tree := by
  obtain ⟨operators, sum⟩ := derived
  exact ⟨operators, sum_permitted (fun level _ below => by omega) sum⟩

end Grammar
end DiagramScript
