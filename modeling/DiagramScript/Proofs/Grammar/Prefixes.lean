import DiagramScript.Proofs.Expression.Tiling
import DiagramScript.Proofs.Grammar.Lookahead

/-! Errors at the first bad token. The parsers of expressions look one token ahead, so a token that
is refused continues nothing that the grammar derives, while the tokens in front of it still can be
continued. Main statement: `Grammar.errors_at_first_bad_token`. -/
namespace DiagramScript.Grammar
open DiagramScript.Parser

/- Without a limit what is derived at one depth is derived at every other. These are the pieces of
expressions, wherever they stand. -/

def IsSum (tokens : List Placed) (tree : Expression) : Prop :=
  ∃ operators, ∀ depth, Sum Unlimited depth operators tokens tree

def IsProduct (tokens : List Placed) (tree : Expression) : Prop :=
  ∃ operators, ∀ depth, Product Unlimited depth operators tokens tree

def IsOperand (tokens : List Placed) (tree : Expression) : Prop :=
  ∀ depth, Operand Unlimited depth tokens tree

def IsPower (tokens : List Placed) (tree : Expression) : Prop :=
  ∀ depth, Power Unlimited depth tokens tree

def IsPrimary (tokens : List Placed) (tree : Expression) : Prop :=
  ∀ depth, Primary Unlimited depth tokens tree

/-- Arguments with the parenthesis behind them. -/
def IsList (tokens : List Placed) (trees : List Expression) : Prop :=
  ∃ given position, tokens = given ++ [⟨.rightParen, position⟩] ∧
    ∀ depth, Arguments Unlimited depth given trees

def IsGiven (tokens : List Placed) (trees : List Expression) : Prop :=
  IsList tokens trees ∨ (∃ position, tokens = [⟨.rightParen, position⟩]) ∧ trees = []

theorem isPrimary_one : IsPrimary [⟨.number .one, 0⟩] (.literal (Complex.ofReal .one) 0) :=
  fun _ => .number

theorem isOperand_of_isPower {tokens : List Placed} {tree : Expression}
    (power : IsPower tokens tree) : IsOperand tokens tree :=
  fun _ => .power trivial (power _)

theorem isPrimary_call {name : Text} {position opening : Nat} {tokens : List Placed}
    {trees : List Expression} (given : IsGiven tokens trees) :
    IsPrimary (⟨.name name, position⟩ :: ⟨.leftParen, opening⟩ :: tokens)
      (.call name trees position) := by
  intro depth
  obtain ⟨given, closing, rfl, derived⟩ | ⟨⟨closing, rfl⟩, rfl⟩ := given
  · exact .call (derived depth)
  · exact .emptyCall

theorem nextOperator?_congr {wanted : Operator → Bool} {tokens tokens' : List Placed}
    (none : nextOperator? wanted tokens = none) (same : tokens'.head? = tokens.head?) :
    nextOperator? wanted tokens' = Option.none := by
  rcases tokens' with _ | ⟨first, rest'⟩
  · rfl
  · obtain ⟨rest, rfl⟩ := List.head?_eq_some_iff.mp same.symm
    simp only [nextOperator?] at none ⊢
    split at none
    · split at none
      · cases none
      · rename_i unwanted
        simp [unwanted]
    · simp

section

variable {wanted : Operator → Bool} {operand : Nat → Parser Expression}
  {chained linked : List Placed → Expression → Prop}

def GoesOn (chained : List Placed → Expression → Prop) (tree : Expression) (read : List Placed)
    (final : Expression) : Prop :=
  ∀ left, chained left tree → chained (left ++ read) final

theorem goesOn_nil (tree : Expression) : GoesOn chained tree [] tree := by
  intro left sofar
  rwa [List.append_nil]

theorem chain_predicts_end {tokens : List Placed} (none : nextOperator? wanted tokens = none)
    (room : Nat) (tree : Expression) :
    Predicts (chain wanted operand room tree) (GoesOn chained tree) tokens
      (chain wanted operand room tree tokens) := by
  refine .congr (fun tokens' first => ?_) (.of_value tree (goesOn_nil tree))
  cases room <;> simp only [chain, nextOperator?_congr none first]

theorem chain_predictive
    (extend : ∀ {left right tree tree' token operator position}, chained left tree →
      token.operator? = some operator → wanted operator = true → linked right tree' →
      chained (left ++ ⟨token, position⟩ :: right) (.binary operator tree tree' position))
    (operands : ∀ room, Predictive (operand room) linked) (room : Nat) (tree : Expression) :
    Predictive (chain wanted operand room tree) (GoesOn chained tree) := by
  intro tokens
  induction room generalizing tree tokens with
  | zero =>
    cases found : nextOperator? wanted tokens with
    | none => exact chain_predicts_end found 0 tree
    | some next =>
      have stops : chain wanted operand 0 tree tokens = .error (.tooDeeplyNested next.2.1) := by
        simp only [chain, found]
      exact .of_error stops trivial
  | succ room ih =>
    cases found : nextOperator? wanted tokens with
    | none => exact chain_predicts_end found _ tree
    | some next =>
      obtain ⟨operator, position, rest⟩ := next
      obtain ⟨token, rfl, stands, isWanted⟩ := nextOperator?_eq_some found
      -- Behind the operator comes its right operand, and then a chain with one operand more.
      refine .cons (fun rest' => ?_) (.bind (fun _ => rfl) (operands room rest)
        (fun _ right rest' _ _ => ih (.binary operator tree right position) rest') ?_
        fun right => ⟨[], _, goesOn_nil _⟩)
      · simp only [chain, nextOperator?, stands, isWanted, if_true]
      · intro read right read' final whole onward left sofar
        simpa using onward _ (extend sofar stands isWanted whole)

theorem chained_predictive
    (first : ∀ {tokens tree}, linked tokens tree → chained tokens tree)
    (extend : ∀ {left right tree tree' token operator position}, chained left tree →
      token.operator? = some operator → wanted operator = true → linked right tree' →
      chained (left ++ ⟨token, position⟩ :: right) (.binary operator tree tree' position))
    (operands : ∀ room, Predictive (operand room) linked) (room : Nat) :
    Predictive (Parser.chained wanted operand room) chained := by
  intro tokens
  exact .bind (fun _ => rfl) (operands room tokens)
    (fun _ left rest _ _ => chain_predictive extend operands room left rest)
    (fun whole onward => onward _ (first whole)) fun left => ⟨[], left, goesOn_nil left⟩

end

theorem product_predictive {operand : Nat → Parser Expression}
    (operands : ∀ room, Predictive (operand room) IsOperand) (room : Nat) :
    Predictive (product operand room) IsProduct := by
  refine chained_predictive ?_ ?_ operands room
  · intro tokens tree operand
    exact ⟨0, fun depth => .operand (operand depth)⟩
  · rintro left right tree tree' token operator position ⟨operators, product⟩ stands wanted operand
    exact ⟨operators + 1, fun depth => .operator (product depth) stands wanted (operand _)⟩

theorem sum_predictive {operand : Nat → Parser Expression}
    (operands : ∀ room, Predictive (operand room) IsOperand) (room : Nat) :
    Predictive (sum operand room) IsSum := by
  refine chained_predictive ?_ ?_ (product_predictive operands) room
  · rintro tokens tree ⟨operators, product⟩
    exact ⟨0, fun depth => .product (product depth)⟩
  · rintro left right tree tree' token operator position ⟨operators, sum⟩ stands wanted
      ⟨further, product⟩
    exact ⟨operators + 1, fun depth => .operator (sum depth) stands wanted (product _)⟩

section

variable {inner : Parser Expression}

def afterArgument (more : Parser (List Expression)) (argument : Expression) :
    Parser (List Expression)
  | [] => .error .unexpectedEnd
  | next :: rest =>
    match next.token with
    | .comma => do
      let (others, rest) ← more rest
      .ok (argument :: others, rest)
    | .rightParen => .ok ([argument], rest)
    | token => .error (.unexpectedToken token next.position)

theorem argumentsFrom_succ (inner : Parser Expression) (rounds : Nat) (tokens : List Placed) :
    argumentsFrom inner (rounds + 1) tokens =
      inner tokens >>= fun result =>
        afterArgument (argumentsFrom inner rounds) result.1 result.2 := rfl

theorem afterArgument_congr {more more' : Parser (List Expression)} {rest : List Placed}
    (same : ∀ tokens, tokens.length < rest.length → more tokens = more' tokens)
    (argument : Expression) :
    afterArgument more argument rest = afterArgument more' argument rest := by
  rcases rest with _ | ⟨next, rest⟩
  · rfl
  · simp only [afterArgument, same rest (Nat.lt_succ_self _)]

theorem bind_congr_of_sums (predictive : Predictive inner IsSum) {α : Type} {tokens : List Placed}
    {next next' : Expression × List Placed → Except ExpressionError α}
    (same : ∀ argument rest, rest.length < tokens.length →
      next (argument, rest) = next' (argument, rest)) :
    inner tokens >>= next = inner tokens >>= next' := by
  have predicts := predictive tokens
  generalize inner tokens = outcome at predicts
  cases predicts with
  | read split whole =>
    obtain ⟨operators, sum⟩ := whole
    obtain ⟨first, others, rfl, _⟩ := sum_head (sum 0)
    refine same _ _ ?_
    rw [split, List.length_append, List.length_cons]
    omega
  | _ => rfl

/-- Every argument takes a token, so one more round than there are tokens is as good as any larger
number. -/
theorem argumentsFrom_rounds (predictive : Predictive inner IsSum) {rounds rounds' : Nat}
    {tokens : List Placed} (enough : tokens.length < rounds) (enough' : tokens.length < rounds') :
    argumentsFrom inner rounds tokens = argumentsFrom inner rounds' tokens := by
  induction rounds generalizing rounds' tokens with
  | zero => omega
  | succ rounds ih =>
    obtain ⟨rounds', rfl⟩ : ∃ fewer, rounds' = fewer + 1 := ⟨rounds' - 1, by omega⟩
    rw [argumentsFrom_succ, argumentsFrom_succ]
    refine bind_congr_of_sums predictive fun argument rest shorter => ?_
    refine afterArgument_congr (fun tokens' fewer => ?_) argument
    have fewer' : tokens'.length < tokens.length := Nat.lt_trans fewer shorter
    exact ih (by omega) (by omega)

def someArguments (inner : Parser Expression) : Parser (List Expression) :=
  fun tokens => argumentsFrom inner (tokens.length + 1) tokens

theorem someArguments_eq (predictive : Predictive inner IsSum) (tokens : List Placed) :
    someArguments inner tokens = inner tokens >>= fun result =>
      afterArgument (someArguments inner) result.1 result.2 := by
  rw [someArguments, argumentsFrom_succ]
  refine bind_congr_of_sums predictive fun argument rest shorter => ?_
  refine afterArgument_congr (fun tokens' fewer => ?_) argument
  exact argumentsFrom_rounds predictive (Nat.lt_trans fewer shorter) (Nat.lt_succ_self _)

inductive Behind (argument : Expression) : List Placed → List Expression → Prop
  | closing {position} : Behind argument [⟨.rightParen, position⟩] [argument]
  | more {position tokens trees} : IsList tokens trees →
      Behind argument (⟨.comma, position⟩ :: tokens) (argument :: trees)

theorem isList_of_behind {read read' : List Placed} {argument : Expression}
    {trees : List Expression} (whole : IsSum read argument) (behind : Behind argument read' trees) :
    IsList (read ++ read') trees := by
  obtain ⟨operators, sum⟩ := whole
  cases behind with
  | closing => exact ⟨read, _, rfl, fun depth => .last (sum depth)⟩
  | @more position _ _ others =>
    obtain ⟨given, closing, rfl, derived⟩ := others
    exact ⟨read ++ ⟨.comma, position⟩ :: given, closing, by simp,
      fun depth => .more (sum depth) (derived depth)⟩

theorem extends_behind (argument : Expression) : Extends (Behind argument) [] :=
  ⟨[⟨.rightParen, 0⟩], _, .closing⟩

theorem afterArgument_predicts {more : Parser (List Expression)} (argument : Expression)
    {tokens : List Placed}
    (predicts : ∀ rest, rest.length < tokens.length → Predicts more IsList rest (more rest)) :
    Predicts (afterArgument more argument) (Behind argument) tokens
      (afterArgument more argument tokens) := by
  rcases tokens with _ | ⟨⟨token, position⟩, rest⟩
  · exact .ended (extends_behind argument)
  · cases token with
    | comma =>
      exact .cons (fun _ => rfl)
        (.map (argument :: ·) (fun _ => rfl) (predicts rest (Nat.lt_succ_self _)) .more)
    | rightParen => exact .of_first (fun _ => rfl) .closing
    | _ => exact .of_token (fun _ => rfl) (extends_behind argument)

theorem someArguments_predictive (predictive : Predictive inner IsSum) :
    Predictive (someArguments inner) IsList := by
  intro tokens
  induction size : tokens.length using Nat.strongRecOn generalizing tokens with
  | _ size ih =>
    refine .bind (someArguments_eq predictive) (predictive tokens) ?_ isList_of_behind
      extends_behind
    rintro read argument rest rfl _
    refine afterArgument_predicts argument fun rest' fewer => ih _ ?_ rest' rfl
    rw [← size, List.length_append]
    omega

theorem arguments_predictive (predictive : Predictive inner IsSum) :
    Predictive (arguments inner) IsGiven := by
  intro tokens
  by_cases closing : ∃ position rest, tokens = ⟨.rightParen, position⟩ :: rest
  · obtain ⟨position, rest, rfl⟩ := closing
    exact .of_first (fun _ => rfl) (.inr ⟨⟨position, rfl⟩, rfl⟩)
  · refine .congr (fun tokens' first => ?_) ((someArguments_predictive predictive tokens).mono .inl)
    unfold arguments
    split
    · obtain ⟨rest, same⟩ := List.head?_eq_some_iff.mp first.symm
      exact absurd ⟨_, rest, same⟩ closing
    · rfl

theorem literal_predicts (value : Binary64) (position : Nat) (tokens : List Placed) :
    Predicts (literal value position) (fun read => IsPrimary (⟨.number value, position⟩ :: read))
      tokens (literal value position tokens) := by
  have alone : IsPrimary [⟨.number value, position⟩] (.literal (Complex.ofReal value) position) :=
    fun _ => .number
  by_cases named : ∃ name position' rest, tokens = ⟨.name name, position'⟩ :: rest
  · obtain ⟨name, position', rest, rfl⟩ := named
    by_cases unit : name ∈ imaginaryUnits
    · exact .of_first (fun _ => if_pos unit) fun _ => .imaginary unit
    · exact .of_token (fun _ => if_neg unit) ⟨[], _, alone⟩
  · refine .congr (fun tokens' first => ?_) (.of_value _ alone)
    unfold literal
    split
    · obtain ⟨rest, same⟩ := List.head?_eq_some_iff.mp first.symm
      exact absurd ⟨_, _, rest, same⟩ named
    · rfl

def closed (position : Nat) (contents : Expression) : Parser Expression
  | ⟨.rightParen, _⟩ :: rest => .ok (contents, rest)
  | _ => .error (.unclosedParen position)

theorem group_eq (inner : Parser Expression) (position : Nat) (tokens : List Placed) :
    group inner position tokens =
      inner tokens >>= fun result => closed position result.1 result.2 := rfl

theorem closed_predictive (position : Nat) (contents : Expression) :
    Predictive (closed position contents) fun read tree =>
      (∃ closing, read = [⟨.rightParen, closing⟩]) ∧ tree = contents := by
  intro tokens
  by_cases closing : ∃ position rest, tokens = ⟨.rightParen, position⟩ :: rest
  · obtain ⟨closing, rest, rfl⟩ := closing
    exact .of_first (fun _ => rfl) ⟨⟨closing, rfl⟩, rfl⟩
  · have unclosed : closed position contents tokens = .error (.unclosedParen position) := by
      unfold closed
      split
      · exact absurd ⟨_, _, rfl⟩ closing
      · rfl
    exact .of_error unclosed trivial

theorem group_predicts (predictive : Predictive inner IsSum) (position : Nat)
    (tokens : List Placed) :
    Predicts (group inner position) (fun read => IsPrimary (⟨.leftParen, position⟩ :: read)) tokens
      (group inner position tokens) := by
  refine .bind (group_eq inner position) (predictive tokens)
    (fun _ contents rest _ _ => closed_predictive position contents rest) ?_
    fun contents => ⟨[⟨.rightParen, 0⟩], contents, ⟨0, rfl⟩, rfl⟩
  rintro read tree read' tree' ⟨operators, sum⟩ ⟨⟨closing, rfl⟩, rfl⟩
  exact fun depth => .group (sum _)

theorem named_predicts (predictive : Predictive inner IsSum) (name : Text) (position : Nat)
    (tokens : List Placed) :
    Predicts (named inner name position) (fun read => IsPrimary (⟨.name name, position⟩ :: read))
      tokens (named inner name position tokens) := by
  by_cases opening : ∃ position rest, tokens = ⟨.leftParen, position⟩ :: rest
  · obtain ⟨opening, rest, rfl⟩ := opening
    exact .cons (fun _ => rfl)
      (.map (.call name · position) (fun _ => rfl) (arguments_predictive predictive rest)
        isPrimary_call)
  · -- Without a parenthesis the name is a constant, or it is refused as unknown.
    have constant : ∀ tokens' : List Placed, tokens'.head? = tokens.head? →
        named inner name position tokens' =
          if name ∈ imaginaryUnits then .ok (.literal Complex.i position, tokens')
          else if name = piName then .ok (.literal (Complex.ofReal Binary64.pi) position, tokens')
          else .error (.unknownName name position) := by
      intro tokens' first
      unfold named
      split
      · obtain ⟨rest, same⟩ := List.head?_eq_some_iff.mp first.symm
        exact absurd ⟨_, rest, same⟩ opening
      · rfl
    by_cases unit : name ∈ imaginaryUnits
    · simp only [if_pos unit] at constant
      exact .congr constant (.of_value _ fun _ => .unit unit)
    · simp only [if_neg unit] at constant
      by_cases isPi : name = piName
      · subst isPi
        exact .congr constant (.of_value _ fun _ => .pi)
      · simp only [if_neg isPi] at constant
        exact .of_error (constant tokens rfl) trivial

theorem primary_predictive (predictive : Predictive inner IsSum) :
    Predictive (primary inner) IsPrimary := by
  have extendable : Extends IsPrimary [] := ⟨_, _, isPrimary_one⟩
  rintro (_ | ⟨⟨token, position⟩, rest⟩)
  · exact .ended extendable
  · cases token with
    | number value => exact .cons (fun _ => rfl) (literal_predicts value position rest)
    | leftParen => exact .cons (fun _ => rfl) (group_predicts predictive position rest)
    | name name => exact .cons (fun _ => rfl) (named_predicts predictive name position rest)
    | _ => exact .of_token (fun _ => rfl) extendable

end

def exponentOf (exponent : Parser Expression) (left : Expression) : Parser Expression := fun rest =>
  match nextOperator? (· == .pow) rest with
  | some (operator, position, rest) => do
    let (right, rest) ← exponent rest
    .ok (.binary operator left right position, rest)
  | none => .ok (left, rest)

theorem power_eq (base exponent : Parser Expression) (tokens : List Placed) :
    power base exponent tokens =
      base tokens >>= fun result => exponentOf exponent result.1 result.2 := rfl

def Raises (left : Expression) (tokens : List Placed) (tree : Expression) : Prop :=
  ∀ base, IsPrimary base left → IsPower (base ++ tokens) tree

theorem raises_nil (left : Expression) : Raises left [] left := by
  intro base primary depth
  rw [List.append_nil]
  exact .primary (primary depth)

theorem exponentOf_predictive {exponent : Parser Expression}
    (predictive : Predictive exponent IsOperand) (left : Expression) :
    Predictive (exponentOf exponent left) (Raises left) := by
  intro tokens
  cases found : nextOperator? (· == .pow) tokens with
  | none =>
    refine .congr (fun tokens' first => ?_) (.of_value left (raises_nil left))
    simp only [exponentOf, nextOperator?_congr found first]
  | some next =>
    obtain ⟨operator, position, rest⟩ := next
    obtain ⟨token, rfl, stands, isPower⟩ := nextOperator?_eq_some found
    obtain rfl : operator = .pow := by simpa using isPower
    refine .cons (fun rest' => ?_)
      (.map (.binary .pow left · position) (fun _ => rfl) (predictive rest) ?_)
    · simp only [exponentOf, nextOperator?, stands, beq_self_eq_true, if_true]
    · exact fun whole base primary depth => .raised (primary depth) stands (whole depth)

theorem power_predictive {base exponent : Parser Expression}
    (bases : Predictive base IsPrimary) (exponents : Predictive exponent IsOperand) :
    Predictive (power base exponent) IsPower := by
  intro tokens
  exact .bind (power_eq base exponent) (bases tokens)
    (fun _ left rest _ _ => exponentOf_predictive exponents left rest)
    (fun primary raises => raises _ primary) fun left => ⟨[], left, raises_nil left⟩

theorem operandInside_predictive {operand : Nat → Parser Expression}
    (operands : ∀ room, Predictive (operand room) IsOperand) (room : Nat) :
    Predictive (operandInside operand room) IsOperand := by
  intro tokens
  have primaries := primary_predictive (sum_predictive operands room)
  have powers := power_predictive primaries (operands room)
  rcases tokens with _ | ⟨⟨token, position⟩, rest⟩
  · exact .ended ⟨_, _, isOperand_of_isPower fun _ => .primary (isPrimary_one _)⟩
  · cases stands : token.sign? with
    | some sign =>
      refine .cons (fun _ => operandInside_of_sign stands)
        (.map (.signed sign · position) (fun _ => rfl) (operands room rest) ?_)
      exact fun whole depth => .signed trivial stands (whole _)
    | none =>
      refine .congr (fun tokens' first => ?_) ((powers _).mono isOperand_of_isPower)
      obtain ⟨rest', rfl⟩ := List.head?_eq_some_iff.mp first
      exact operandInside_of_no_sign stands

theorem operandWithin_predictive (bound room : Nat) :
    Predictive (operandWithin bound room) IsOperand := by
  induction bound generalizing room with
  | zero => exact fun tokens => .failed trivial
  | succ bound ih =>
    cases room with
    | zero => exact fun tokens => .failed trivial
    | succ room => exact operandInside_predictive ih room

theorem expressionAt_predictive (depth : Nat) : Predictive (expressionAt depth) IsSum :=
  sum_predictive (operandWithin_predictive _) _

/-- Tokens that are an expression, however deeply nested. -/
def Sentence (tokens : List Placed) : Prop := ∃ tree, Derives Unlimited tokens tree

/-- Tokens with which an expression starts. -/
def Viable (tokens : List Placed) : Prop := ∃ more, Sentence (tokens ++ more)

theorem viable_of_extends {tokens : List Placed} (extendable : Extends IsSum tokens) :
    Viable tokens := by
  obtain ⟨more, tree, operators, sum⟩ := extendable
  exact ⟨more, tree, operators, sum 0⟩

theorem limitless_of_derives {tokens : List Placed} {tree : Expression}
    (derived : Derives Unlimited tokens tree) : limitless.sum tokens = .ok (tree, []) := by
  have shallow : ¬Deep (· < tokens.length) (tokens.length + 1) := by
    rintro ⟨level, below, above⟩
    omega
  rw [← (limitless_sum_eq limitless tokens).2]
  exact (derives_reads _ (derives_below_length derived)).ok shallow

theorem expressionAt_of_sentence {tokens : List Placed} (sentence : Sentence tokens) (depth : Nat) :
    TooDeep (expressionAt depth tokens) ∨ ∃ tree, expressionAt depth tokens = .ok (tree, []) := by
  obtain ⟨tree, derived⟩ := sentence
  have tracks := sum_tracks limitless (Nat.le_refl (maxDepth - depth)) tokens
  rw [limitless_of_derives derived] at tracks
  exact tracks.tooDeep_or_eq.imp_right fun same => ⟨tree, same⟩

theorem not_sentence_of_error {tokens : List Placed} {depth : Nat} {cause : ExpressionError}
    (failed : expressionAt depth tokens = .error cause)
    (shallow : ∀ position, cause ≠ .tooDeeplyNested position) : ¬Sentence tokens := by
  intro sentence
  obtain ⟨position, deep⟩ | ⟨tree, read⟩ := expressionAt_of_sentence sentence depth
  · exact shallow position (Except.error.inj (failed.symm.trans deep))
  · rw [failed] at read
    cases read

theorem not_sentence_of_rest {tokens rest : List Placed} {depth : Nat} {tree : Expression}
    {next : Placed} (read : expressionAt depth tokens = .ok (tree, next :: rest)) :
    ¬Sentence tokens := by
  intro sentence
  obtain ⟨position, deep⟩ | ⟨tree', read'⟩ := expressionAt_of_sentence sentence depth
  · rw [read] at deep
    cases deep
  · rw [read] at read'
    cases read'

def Splits (tokens before : List Placed) (token : Token) (position : Nat) (after : List Placed) :
    Prop :=
  tokens = before ++ ⟨token, position⟩ :: after ∧
    (∀ placed ∈ before, placed.position < position) ∧
    ∀ placed ∈ after, position < placed.position

theorem splits_of_tokenize {text : Text} {tokens before after : List Placed} {token : Token}
    {position : Nat} (tokenized : tokenize text = .ok tokens)
    (split : tokens = before ++ ⟨token, position⟩ :: after) :
    Splits tokens before token position after := by
  have order := (Tiled.of_tokenizeFrom tokenized).positions.2
  rw [split, List.pairwise_append, List.pairwise_cons] at order
  obtain ⟨_, ⟨behind, _⟩, across⟩ := order
  exact ⟨split, fun placed member => across placed member _ List.mem_cons_self, behind⟩

theorem ofTokens_eq_error {tokens : List Placed} {cause : ExpressionError}
    (failed : Expression.ofTokens tokens = .error cause) :
    expressionAt 0 tokens = .error cause ∨ ∃ tree next rest,
      expressionAt 0 tokens = .ok (tree, next :: rest) ∧
        cause = .trailingToken next.token next.position := by
  simp only [Expression.ofTokens, bind_eq_error_iff] at failed
  obtain failed | ⟨⟨tree, _ | ⟨next, rest⟩⟩, read, failed⟩ := failed
  · exact .inl failed
  · cases failed
  · cases failed
    exact .inr ⟨tree, next, rest, read, rfl⟩

/-- A text whose tokens end too early starts an expression and is none. The tokens before one that
is left over are accepted, and no expression goes on with that token. The tokens before one that is
unexpected start an expression, and no expression goes on with that token. -/
theorem errors_at_first_bad_token {text : Text} {tokens : List Placed}
    (tokenized : tokenize text = .ok tokens) :
    (Expression.ofTokens tokens = .error .unexpectedEnd → Viable tokens ∧ ¬Sentence tokens) ∧
    (∀ token position, Expression.ofTokens tokens = .error (.trailingToken token position) →
      ∃ before after, Splits tokens before token position after ∧
        (∃ tree, Expression.ofTokens before = .ok tree) ∧ ¬Viable (before ++ [⟨token, position⟩])) ∧
    (∀ token position, Expression.ofTokens tokens = .error (.unexpectedToken token position) →
      ∃ before after, Splits tokens before token position after ∧
        Viable before ∧ ¬Viable (before ++ [⟨token, position⟩])) := by
  have predicts := expressionAt_predictive 0 tokens
  refine ⟨?_, ?_, ?_⟩
  · intro failed
    obtain ended | ⟨_, _, _, _, impossible⟩ := ofTokens_eq_error failed
    · rw [ended] at predicts
      cases predicts with
      | ended extendable => exact ⟨viable_of_extends extendable, not_sentence_of_error ended nofun⟩
      | failed mute => exact mute.elim
    · cases impossible
  · intro token position failed
    obtain trailing | ⟨tree, next, after, succeeded, same⟩ := ofTokens_eq_error failed
    · rw [trailing] at predicts
      cases predicts with
      | failed mute => exact mute.elim
    · cases same
      rw [succeeded] at predicts
      cases predicts with
      | @read before _ _ split _ onward =>
        refine ⟨before, after, splits_of_tokenize tokenized split, ?_, ?_⟩
        · obtain ⟨read, split', derived⟩ :=
            expressionAt_sound (Nat.zero_le maxDepth) _ _ _ succeeded
          obtain rfl : before = read := List.append_cancel_right (split.symm.trans split')
          exact ⟨tree, ofTokens_of_limited derived⟩
        · rintro ⟨more, sentence⟩
          rw [List.append_assoc] at sentence
          exact not_sentence_of_rest (onward (next :: more) rfl) sentence
  · intro token position failed
    obtain refused | ⟨_, _, _, _, impossible⟩ := ofTokens_eq_error failed
    · rw [refused] at predicts
      cases predicts with
      | @refused before after _ _ split extendable onward =>
        refine ⟨before, after, splits_of_tokenize tokenized split, viable_of_extends extendable, ?_⟩
        rintro ⟨more, sentence⟩
        rw [List.append_assoc] at sentence
        exact not_sentence_of_error (onward more) nofun sentence
      | failed mute => exact mute.elim
    · cases impossible

theorem errors_at_first_bad_token_calls :
    (∃ tokens, tokenize "1 +".toList = .ok tokens ∧ Viable tokens ∧ ¬Sentence tokens) ∧
    (∃ tokens before after, tokenize "(1)1".toList = .ok tokens ∧
      Splits tokens before (.number .one) 3 after ∧
      (∃ tree, Expression.ofTokens before = .ok tree) ∧ ¬Viable (before ++ [⟨.number .one, 3⟩])) ∧
    ∃ tokens before after, tokenize "pow(1,*".toList = .ok tokens ∧
      Splits tokens before .star 6 after ∧ Viable before ∧ ¬Viable (before ++ [⟨.star, 6⟩]) := by
  have early : tokenize "1 +".toList = .ok [⟨.number .one, 0⟩, ⟨.plus, 2⟩] := by decide +kernel
  have late : tokenize "(1)1".toList = .ok
      [⟨.leftParen, 0⟩, ⟨.number .one, 1⟩, ⟨.rightParen, 2⟩, ⟨.number .one, 3⟩] := by decide +kernel
  have wrong : tokenize "pow(1,*".toList = .ok [⟨.name "pow".toList, 0⟩, ⟨.leftParen, 3⟩,
      ⟨.number .one, 4⟩, ⟨.comma, 5⟩, ⟨.star, 6⟩] := by decide +kernel
  refine ⟨⟨_, early, (errors_at_first_bad_token early).1 rfl⟩, ?_, ?_⟩
  · obtain ⟨before, after, split, accepted, stuck⟩ :=
      (errors_at_first_bad_token late).2.1 (.number .one) 3 rfl
    exact ⟨_, before, after, late, split, accepted, stuck⟩
  · obtain ⟨before, after, split, viable, stuck⟩ :=
      (errors_at_first_bad_token wrong).2.2 .star 6 rfl
    exact ⟨_, before, after, wrong, split, viable, stuck⟩

end DiagramScript.Grammar
