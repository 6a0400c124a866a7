import DiagramScript.Expression.Evaluation

/-! Positions are carried along and never looked at: to forget the positions of the tokens first is
the same as to forget those of the outcome. So two token lists that differ in positions only have
trees, values and errors that differ in positions only. -/
namespace DiagramScript

def Placed.unplaced (placed : Placed) : Placed := ⟨placed.token, 0⟩

namespace Expression

mutual

def unplaced : Expression → Expression
  | .literal value _ => .literal value 0
  | .signed sign operand _ => .signed sign operand.unplaced 0
  | .binary operator left right _ => .binary operator left.unplaced right.unplaced 0
  | .call name arguments _ => .call name (unplacedAll arguments) 0

def unplacedAll : List Expression → List Expression
  | [] => []
  | first :: others => first.unplaced :: unplacedAll others

end

end Expression

/-- The kind of an error, with what it says apart from the position. -/
def ExpressionError.unplaced : ExpressionError → ExpressionError
  | .unexpectedCharacter found _ => .unexpectedCharacter found 0
  | .unexpectedToken token _ => .unexpectedToken token 0
  | .unexpectedEnd => .unexpectedEnd
  | .unclosedParen _ => .unclosedParen 0
  | .trailingToken token _ => .trailingToken token 0
  | .unknownName name _ => .unknownName name 0
  | .unknownFunction name _ => .unknownFunction name 0
  | .argumentCount name expected found => .argumentCount name expected found
  | .divisionByZero _ => .divisionByZero 0
  | .overflow _ => .overflow 0
  | .tooDeeplyNested _ => .tooDeeplyNested 0
  | .noSquareRoot argument => .noSquareRoot argument
  | .notANumber text => .notANumber text

def forget {α β : Type} (f : α → β) : Except ExpressionError α → Except ExpressionError β
  | .ok value => .ok (f value)
  | .error cause => .error cause.unplaced

theorem forget_bind {α β α' β' : Type} {f : α → α'} {g : β → β'}
    {first : Except ExpressionError α} {next : α → Except ExpressionError β}
    {next' : α' → Except ExpressionError β'}
    (same : ∀ value, next' (f value) = forget g (next value)) :
    (forget f first >>= next') = forget g (first >>= next) := by
  cases first with
  | ok value => exact same value
  | error cause => rfl

namespace Parser

def unplacedRead {α : Type} (f : α → α) (read : α × List Placed) : α × List Placed :=
  (f read.1, read.2.map Placed.unplaced)

/-- On tokens without positions the first parser gives what the second gives on the tokens, without
positions. -/
def Mirrors {α : Type} (f : α → α) (parser' parser : Parser α) : Prop :=
  ∀ tokens, parser' (tokens.map Placed.unplaced) = forget (unplacedRead f) (parser tokens)

theorem nextOperator?_unplaced (wanted : Operator → Bool) (tokens : List Placed) :
    nextOperator? wanted (tokens.map Placed.unplaced) =
      (nextOperator? wanted tokens).map fun found =>
        (found.1, 0, found.2.2.map Placed.unplaced) := by
  rcases tokens with _ | ⟨⟨token, position⟩, others⟩
  · rfl
  · simp only [List.map_cons, nextOperator?, Placed.unplaced]
    cases token.operator? with
    | none => rfl
    | some operator => dsimp only; split <;> rfl

theorem startOf_unplaced (tokens : List Placed) : startOf (tokens.map Placed.unplaced) = 0 := by
  cases tokens <;> rfl

section

variable {wanted : Operator → Bool} {operand : Nat → Parser Expression} {inner : Parser Expression}

theorem chain_mirrors
    (operands : ∀ room, Mirrors Expression.unplaced (operand room) (operand room))
    (room : Nat) (tree : Expression) :
    Mirrors Expression.unplaced (chain wanted operand room tree.unplaced)
      (chain wanted operand room tree) := by
  intro tokens
  induction room generalizing tree tokens with
  | zero =>
    simp only [chain, nextOperator?_unplaced]
    cases nextOperator? wanted tokens <;> rfl
  | succ room ih =>
    simp only [chain, nextOperator?_unplaced]
    cases nextOperator? wanted tokens with
    | none => rfl
    | some found =>
      obtain ⟨operator, position, rest⟩ := found
      simp only [Option.map_some, operands room rest]
      refine forget_bind ?_
      rintro ⟨right, rest'⟩
      exact ih (.binary operator tree right position) rest'

theorem chained_mirrors
    (operands : ∀ room, Mirrors Expression.unplaced (operand room) (operand room)) (room : Nat) :
    Mirrors Expression.unplaced (chained wanted operand room) (chained wanted operand room) := by
  intro tokens
  simp only [chained, operands room tokens]
  refine forget_bind ?_
  rintro ⟨left, rest⟩
  exact chain_mirrors operands room left rest

theorem sum_mirrors
    (operands : ∀ room, Mirrors Expression.unplaced (operand room) (operand room)) (room : Nat) :
    Mirrors Expression.unplaced (sum operand room) (sum operand room) :=
  chained_mirrors (fun room => chained_mirrors operands room) room

theorem argumentsFrom_mirrors (inside : Mirrors Expression.unplaced inner inner) (rounds : Nat) :
    Mirrors Expression.unplacedAll (argumentsFrom inner rounds) (argumentsFrom inner rounds) := by
  intro tokens
  induction rounds generalizing tokens with
  | zero => rfl
  | succ rounds ih =>
    simp only [argumentsFrom, inside tokens]
    refine forget_bind ?_
    rintro ⟨first, _ | ⟨⟨token, position⟩, rest⟩⟩
    · rfl
    · cases token with
      | comma =>
        simp only [unplacedRead, List.map_cons, Placed.unplaced, ih rest]
        exact forget_bind fun _ => rfl
      | _ => rfl

theorem arguments_mirrors (inside : Mirrors Expression.unplaced inner inner) :
    Mirrors Expression.unplacedAll (arguments inner) (arguments inner) := by
  intro tokens
  have longer := argumentsFrom_mirrors inside (tokens.length + 1) tokens
  rcases tokens with _ | ⟨⟨token, position⟩, rest⟩
  · exact longer
  · cases token with
    | rightParen => rfl
    | _ => simpa [arguments, Placed.unplaced] using longer

theorem named_mirrors (inside : Mirrors Expression.unplaced inner inner) (name : Text)
    (position : Nat) :
    Mirrors Expression.unplaced (named inner name 0) (named inner name position) := by
  have constant : ∀ tokens : List Placed, forget (unplacedRead Expression.unplaced)
      (if name ∈ imaginaryUnits then .ok (.literal Complex.i position, tokens)
        else if name = piName then .ok (.literal (Complex.ofReal Binary64.pi) position, tokens)
        else .error (.unknownName name position)) =
      if name ∈ imaginaryUnits then .ok (.literal Complex.i 0, tokens.map Placed.unplaced)
        else if name = piName then
          .ok (.literal (Complex.ofReal Binary64.pi) 0, tokens.map Placed.unplaced)
        else .error (.unknownName name 0) := by
    intro tokens
    split
    · rfl
    · split <;> rfl
  rintro (_ | ⟨⟨token, position'⟩, rest⟩)
  · exact (constant []).symm
  · cases token with
    | leftParen =>
      simp only [named, List.map_cons, Placed.unplaced]
      rw [arguments_mirrors inside rest]
      exact forget_bind fun _ => rfl
    | _ => exact (constant (⟨_, position'⟩ :: rest)).symm

theorem primary_mirrors (inside : Mirrors Expression.unplaced inner inner) :
    Mirrors Expression.unplaced (primary inner) (primary inner) := by
  rintro (_ | ⟨⟨token, position⟩, rest⟩)
  · rfl
  · cases token with
    | number value =>
      rcases rest with _ | ⟨⟨token', position'⟩, rest⟩
      · rfl
      · cases token' with
        | name name =>
          simp only [primary, literal, List.map_cons, Placed.unplaced]
          split <;> rfl
        | _ => rfl
    | leftParen =>
      simp only [primary, group, List.map_cons, Placed.unplaced, inside rest]
      refine forget_bind ?_
      rintro ⟨contents, _ | ⟨⟨token', position'⟩, rest'⟩⟩
      · rfl
      · cases token' <;> rfl
    | name name => exact named_mirrors inside name position rest
    | _ => rfl

theorem power_mirrors {base exponent : Parser Expression}
    (bases : Mirrors Expression.unplaced base base)
    (exponents : Mirrors Expression.unplaced exponent exponent) :
    Mirrors Expression.unplaced (power base exponent) (power base exponent) := by
  intro tokens
  simp only [power, bases tokens]
  refine forget_bind ?_
  rintro ⟨left, rest⟩
  simp only [unplacedRead, nextOperator?_unplaced]
  cases nextOperator? (· == .pow) rest with
  | none => rfl
  | some found =>
    obtain ⟨operator, position, rest'⟩ := found
    simp only [Option.map_some, exponents rest']
    exact forget_bind fun _ => rfl

end

theorem operandWithin_mirrors (bound room : Nat) :
    Mirrors Expression.unplaced (operandWithin bound room) (operandWithin bound room) := by
  induction bound generalizing room with
  | zero =>
    intro tokens
    simp only [operandWithin, startOf_unplaced]
    rfl
  | succ bound ih =>
    intro tokens
    cases room with
    | zero =>
      simp only [operandWithin, startOf_unplaced]
      rfl
    | succ room =>
      have powers := power_mirrors (primary_mirrors (sum_mirrors ih room)) (ih room) tokens
      rcases tokens with _ | ⟨⟨token, position⟩, rest⟩
      · exact powers
      · cases token with
        | minus =>
          simp only [operandWithin, operandInside, List.map_cons, Placed.unplaced, ih room rest]
          exact forget_bind fun _ => rfl
        | plus =>
          simp only [operandWithin, operandInside, List.map_cons, Placed.unplaced, ih room rest]
          exact forget_bind fun _ => rfl
        | _ => exact powers

end Parser

theorem powerError_unplaced (base : Value) (position : Nat) :
    (powerError base position).unplaced = powerError base 0 := by
  unfold powerError
  split <;> rfl

theorem evalPower_unplaced (base exponent : Value) (position : Nat) :
    evalPower base exponent 0 = forget id (evalPower base exponent position) := by
  unfold evalPower
  rw [← powerError_unplaced base position]
  cases wholeExponent? exponent with
  | some whole =>
    dsimp only
    split <;> rfl
  | none =>
    dsimp only
    split <;> split <;> rfl

theorem Operator.apply_unplaced (operator : Operator) (left right : Value) (position : Nat) :
    operator.apply left right 0 = forget id (operator.apply left right position) := by
  cases operator with
  | div =>
    simp only [apply]
    split <;> rfl
  | pow => exact evalPower_unplaced left right position
  | _ => rfl

theorem Builtin.sqrt_unplaced (arguments : List Value) :
    sqrt.apply arguments = forget id (sqrt.apply arguments) := by
  rcases arguments with _ | ⟨x, _ | ⟨y, others⟩⟩
  · rfl
  · simp only [sqrt]
    split <;> rfl
  · rfl

theorem Builtin.call_unplaced (name : Text) (arguments : List Value) (position : Nat) :
    call name arguments 0 = forget id (call name arguments position) := by
  simp only [call, all, List.find?_cons, List.find?_nil]
  cases sqrt.name == name with
  | false => rfl
  | true =>
    dsimp only
    split
    · exact sqrt_unplaced arguments
    · rfl

namespace Expression

theorem ofTokens_unplaced (tokens : List Placed) :
    ofTokens (tokens.map Placed.unplaced) = forget unplaced (ofTokens tokens) := by
  have read := Parser.sum_mirrors (Parser.operandWithin_mirrors (Parser.maxDepth - 0))
    (Parser.maxDepth - 0) tokens
  simp only [ofTokens, Parser.expressionAt, read]
  refine forget_bind ?_
  rintro ⟨tree, _ | ⟨next, rest⟩⟩ <;> rfl

mutual

theorem eval_unplaced : ∀ tree : Expression, tree.unplaced.eval = forget id tree.eval
  | .literal value _ => rfl
  | .signed sign operand _ => by
    simp only [unplaced, eval, eval_unplaced operand]
    exact forget_bind fun _ => rfl
  | .binary operator left right position => by
    simp only [unplaced, eval, eval_unplaced left, eval_unplaced right]
    refine forget_bind fun x => forget_bind fun y => ?_
    exact operator.apply_unplaced x y position
  | .call name arguments position => by
    simp only [unplaced, eval, evalAll_unplaced arguments]
    exact forget_bind fun values => Builtin.call_unplaced name values position

theorem evalAll_unplaced :
    ∀ trees : List Expression, evalAll (unplacedAll trees) = forget id (evalAll trees)
  | [] => rfl
  | first :: others => by
    simp only [unplacedAll, evalAll, eval_unplaced first, evalAll_unplaced others]
    exact forget_bind fun _ => forget_bind fun _ => rfl

end

theorem value_of_same_tokens {text text' : Text}
    (same : forget (List.map Placed.unplaced) (tokenize text) =
      forget (List.map Placed.unplaced) (tokenize text')) :
    forget id (value text) = forget id (value text') := by
  have step (text : Text) : (forget (List.map Placed.unplaced) (tokenize text) >>= fun tokens =>
      ofTokens tokens >>= eval) = forget id (value text) := by
    simp only [value, read, bind_assoc]
    refine forget_bind fun tokens => ?_
    rw [ofTokens_unplaced]
    exact forget_bind eval_unplaced
  rw [← step text, ← step text', same]

theorem value_eq_ok_of_same_tokens {text text' : Text} {v : Value}
    (same : forget (List.map Placed.unplaced) (tokenize text) =
      forget (List.map Placed.unplaced) (tokenize text'))
    (evaluates : value text = .ok v) : value text' = .ok v := by
  have outcome := value_of_same_tokens same
  rw [evaluates] at outcome
  cases outcome' : value text' with
  | ok v' =>
    rw [outcome'] at outcome
    cases outcome
    rfl
  | error cause =>
    rw [outcome'] at outcome
    cases outcome

end Expression
end DiagramScript
