import DiagramScript.Proofs.Grammar.Soundness

/-! Completeness of the parser: it reads what is derived, or stops because the derivation is too
deep. Together with soundness the parser decides the limited grammar, and the grammar without a
limit gives every token list at most one tree. -/
namespace DiagramScript

/-- Whether a token may stand behind a piece that is complete. A name or an opening parenthesis
would change how the piece itself is read, and so would an operator that is not expected. -/
def Token.mayFollow (expected : Operator → Bool) : Token → Bool
  | .name _ => false
  | .leftParen => false
  | token => token.operator?.all expected

def Operator.endsOperand (operator : Operator) : Bool :=
  operator.isAdditive || operator.isMultiplicative

theorem Operator.endsOperand_of_isAdditive {operator : Operator}
    (additive : operator.isAdditive = true) : operator.endsOperand = true := by
  rw [endsOperand, additive, Bool.true_or]

theorem Operator.isMultiplicative_of_isAdditive {operator : Operator}
    (additive : operator.isAdditive = true) : operator.isMultiplicative = false := by
  cases operator <;> first | rfl | cases additive

theorem Token.mayFollow_of_operator {token : Token} {operator : Operator}
    (stands : token.operator? = some operator) (expected : Operator → Bool) :
    token.mayFollow expected = expected operator := by
  cases token <;> simp_all [Token.operator?, Token.mayFollow]

namespace Grammar
open DiagramScript.Parser

def Ends (expected : Operator → Bool) (rest : List Placed) : Prop :=
  ∀ next others, rest = next :: others → next.token.mayFollow expected = true

theorem ends_nil {expected : Operator → Bool} : Ends expected [] := by
  intro next others impossible
  cases impossible

theorem ends_cons {expected : Operator → Bool} {next : Placed} {others : List Placed}
    (follows : next.token.mayFollow expected = true) : Ends expected (next :: others) := by
  intro next' others' same
  cases same
  exact follows

theorem ends_mono {expected expected' : Operator → Bool} {rest : List Placed}
    (more : ∀ operator, expected operator = true → expected' operator = true)
    (ends : Ends expected rest) : Ends expected' rest := by
  intro next others same
  have follows := ends next others same
  obtain ⟨token, position⟩ := next
  cases token <;> simp_all [Token.mayFollow, Token.operator?]

theorem nextOperator?_of_ends {expected wanted : Operator → Bool} {rest : List Placed}
    (ends : Ends expected rest)
    (other : ∀ operator, expected operator = true → wanted operator = false) :
    nextOperator? wanted rest = none := by
  rcases rest with _ | ⟨⟨token, position⟩, others⟩
  · rfl
  · have follows := ends _ _ rfl
    cases stands : token.operator? with
    | none => simp only [nextOperator?, stands]
    | some operator =>
      rw [Token.mayFollow_of_operator stands] at follows
      simp [nextOperator?, stands, other operator follows]

/-- Some permitted depth reaches the limit. -/
def Deep (allowed : Nat → Prop) (limit : Nat) : Prop := ∃ level, allowed level ∧ limit ≤ level

/-- The reader either gives the value and leaves the rest, or gives up on the depth, and that only
where the derivation may be too deep. -/
def Reads {α : Type} (deep : Prop) (result : Except ExpressionError (α × List Placed)) (value : α)
    (rest : List Placed) : Prop :=
  result = .ok (value, rest) ∨ deep ∧ ∃ position, result = .error (.tooDeeplyNested position)

theorem Reads.bind {α β : Type} {deep : Prop} {value : α} {rest rest' : List Placed} {value' : β}
    {first : Except ExpressionError (α × List Placed)}
    {next : α × List Placed → Except ExpressionError (β × List Placed)}
    (reads : Reads deep first value rest) (reads' : Reads deep (next (value, rest)) value' rest') :
    Reads deep (first >>= next) value' rest' := by
  rcases reads with rfl | ⟨isDeep, position, rfl⟩
  · exact reads'
  · exact .inr ⟨isDeep, position, rfl⟩

theorem chain_stops {deep : Prop} {wanted : Operator → Bool} {operand : Nat → Parser Expression}
    {room : Nat} {tree : Expression} {rest : List Placed}
    (last : nextOperator? wanted rest = none) :
    Reads deep (chain wanted operand room tree rest) tree rest := by
  cases room <;> exact .inl (by simp only [chain, last])

theorem chain_continues {deep : Prop} {wanted : Operator → Bool}
    {operand : Nat → Parser Expression} {room position : Nat} {token : Token} {operator : Operator}
    {right rest rest' : List Placed} {tree tree' final : Expression}
    (stands : token.operator? = some operator) (isWanted : wanted operator = true)
    (deeper : room = 0 → deep)
    (reads : Reads deep (operand (room - 1) (right ++ rest)) tree' rest)
    (next : Reads deep
      (chain wanted operand (room - 1) (.binary operator tree tree' position) rest) final rest') :
    Reads deep (chain wanted operand room tree (⟨token, position⟩ :: (right ++ rest)))
      final rest' := by
  have found : nextOperator? wanted (⟨token, position⟩ :: (right ++ rest)) =
      some (operator, position, right ++ rest) := by
    simp only [nextOperator?, stands, isWanted, if_true]
  cases room with
  | zero => exact .inr ⟨deeper rfl, position, by simp only [chain, found]⟩
  | succ room =>
    simp only [chain, found]
    exact reads.bind next

theorem operandWithin_zero (bound : Nat) (tokens : List Placed) :
    operandWithin bound 0 tokens = .error (.tooDeeplyNested (startOf tokens)) := by
  cases bound <;> rfl

theorem operandInside_of_sign {operand : Nat → Parser Expression} {room position : Nat}
    {token : Token} {sign : Sign} {others : List Placed} (stands : token.sign? = some sign) :
    operandInside operand room (⟨token, position⟩ :: others) =
      operand room others >>= fun result => .ok (.signed sign result.1 position, result.2) := by
  cases token <;> cases stands <;> rfl

theorem operandInside_of_no_sign {operand : Nat → Parser Expression} {room : Nat} {first : Placed}
    {others : List Placed} (unsigned : first.token.sign? = none) :
    operandInside operand room (first :: others) =
      power (primary (sum operand room)) (operand room) (first :: others) := by
  obtain ⟨token, position⟩ := first
  cases token <;> first | rfl | cases unsigned

theorem literal_of_ends {expected : Operator → Bool} {value : Binary64} {position : Nat}
    {rest : List Placed} (ends : Ends expected rest) :
    literal value position rest = .ok (.literal (Complex.ofReal value) position, rest) := by
  unfold literal
  split
  · cases ends _ _ rfl
  · rfl

theorem named_of_ends {expected : Operator → Bool} {inner : Parser Expression} {name : Text}
    {position : Nat} {rest : List Placed} (ends : Ends expected rest) :
    named inner name position rest =
      if name ∈ imaginaryUnits then .ok (.literal Complex.i position, rest)
      else if name = piName then .ok (.literal (Complex.ofReal Binary64.pi) position, rest)
      else .error (.unknownName name position) := by
  unfold named
  split
  · cases ends _ _ rfl
  · rfl

theorem arguments_cons {inner : Parser Expression} {first : Placed} {others : List Placed}
    (opens : first.token ≠ .rightParen) :
    arguments inner (first :: others) =
      argumentsFrom inner ((first :: others).length + 1) (first :: others) := by
  unfold arguments
  split
  · rename_i same
    cases same
    exact absurd rfl opens
  · rfl

/- The induction follows the derivation. A chain is read from left to right while its derivation
grows to the left, so the statement about chains leaves open how the parser goes on: whatever it
gives from the tree of the chain on, it gives from the tokens of the chain on. -/
mutual

theorem sum_reads {allowed : Nat → Prop} {limit bound depth operators : Nat}
    {tokens : List Placed} {tree : Expression} (enough : limit - depth ≤ bound) :
    Sum allowed depth operators tokens tree →
      ∀ (rest rest' : List Placed) (final : Expression), Ends Operator.isAdditive rest →
      Reads (Deep allowed limit) (chain Operator.isAdditive (product (operandWithin bound))
        (limit - depth - operators) tree rest) final rest' →
      Reads (Deep allowed limit) (sum (operandWithin bound) (limit - depth) (tokens ++ rest))
        final rest'
  | .product inner => by
    intro rest rest' final ends next
    have stops : nextOperator? Operator.isMultiplicative rest = none :=
      nextOperator?_of_ends ends fun _ => Operator.isMultiplicative_of_isAdditive
    have ends' := ends_mono (fun _ => Operator.endsOperand_of_isAdditive) ends
    exact (product_reads enough inner rest rest _ ends' (chain_stops stops)).bind next
  | .operator left stands additive right => by
    intro rest rest' final ends next
    have stops : nextOperator? Operator.isMultiplicative rest = none :=
      nextOperator?_of_ends ends fun _ => Operator.isMultiplicative_of_isAdditive
    have ends' := ends_mono (fun _ => Operator.endsOperand_of_isAdditive) ends
    have enough' (further : Nat) : limit - (depth + further + 1) ≤ bound := by omega
    have reads := product_reads (enough' _) right rest rest _ ends' (chain_stops stops)
    rw [← Nat.sub_sub, ← Nat.sub_sub] at reads
    rw [List.append_assoc, List.cons_append]
    refine sum_reads enough left _ rest' final (ends_cons ?_)
      (chain_continues stands additive ?_ reads next)
    · rw [Token.mayFollow_of_operator stands, additive]
    · intro none
      exact ⟨_, product_allowed right, by omega⟩

theorem product_reads {allowed : Nat → Prop} {limit bound depth operators : Nat}
    {tokens : List Placed} {tree : Expression} (enough : limit - depth ≤ bound) :
    Product allowed depth operators tokens tree →
      ∀ (rest rest' : List Placed) (final : Expression), Ends Operator.endsOperand rest →
      Reads (Deep allowed limit) (chain Operator.isMultiplicative (operandWithin bound)
        (limit - depth - operators) tree rest) final rest' →
      Reads (Deep allowed limit) (product (operandWithin bound) (limit - depth) (tokens ++ rest))
        final rest'
  | .operand inner => by
    intro rest rest' final ends next
    exact (operand_reads enough inner rest ends).bind next
  | .operator left stands multiplicative right => by
    intro rest rest' final ends next
    have enough' (further : Nat) : limit - (depth + further + 1) ≤ bound := by omega
    have reads := operand_reads (enough' _) right rest ends
    rw [← Nat.sub_sub, ← Nat.sub_sub] at reads
    rw [List.append_assoc, List.cons_append]
    refine product_reads enough left _ rest' final (ends_cons ?_)
      (chain_continues stands multiplicative ?_ reads next)
    · rw [Token.mayFollow_of_operator stands, Operator.endsOperand, multiplicative, Bool.or_true]
    · intro none
      exact ⟨_, operand_allowed right, by omega⟩

theorem operand_reads {allowed : Nat → Prop} {limit bound depth : Nat} {tokens : List Placed}
    {tree : Expression} (enough : limit - depth ≤ bound) :
    Operand allowed depth tokens tree → ∀ rest : List Placed, Ends Operator.endsOperand rest →
      Reads (Deep allowed limit) (operandWithin bound (limit - depth) (tokens ++ rest)) tree rest
  | .signed entered sign inner => by
    intro rest ends
    cases remaining : limit - depth with
    | zero =>
      rw [operandWithin_zero]
      exact .inr ⟨⟨depth, entered, by omega⟩, _, rfl⟩
    | succ room =>
      obtain ⟨bound', rfl⟩ : ∃ bound', bound = bound' + 1 := ⟨bound - 1, by omega⟩
      obtain rfl : room = limit - (depth + 1) := by omega
      have reads := operand_reads (by omega : limit - (depth + 1) ≤ bound') inner rest ends
      rw [operandWithin, List.cons_append, operandInside_of_sign sign]
      exact reads.bind (.inl rfl)
  | .power entered inner => by
    intro rest ends
    cases remaining : limit - depth with
    | zero =>
      rw [operandWithin_zero]
      exact .inr ⟨⟨depth, entered, by omega⟩, _, rfl⟩
    | succ room =>
      obtain ⟨bound', rfl⟩ : ∃ bound', bound = bound' + 1 := ⟨bound - 1, by omega⟩
      obtain rfl : room = limit - (depth + 1) := by omega
      have reads := power_reads (by omega : limit - (depth + 1) ≤ bound') inner rest ends
      obtain ⟨first, others, same, unsigned, _⟩ := power_head inner
      rw [same, List.cons_append] at reads ⊢
      rw [operandWithin, operandInside_of_no_sign unsigned]
      exact reads

theorem power_reads {allowed : Nat → Prop} {limit bound depth : Nat} {tokens : List Placed}
    {tree : Expression} (enough : limit - depth ≤ bound) :
    Power allowed depth tokens tree → ∀ rest : List Placed, Ends Operator.endsOperand rest →
      Reads (Deep allowed limit)
        (power (primary (sum (operandWithin bound) (limit - depth)))
          (operandWithin bound (limit - depth)) (tokens ++ rest)) tree rest
  | .primary inner => by
    intro rest ends
    have stops : nextOperator? (· == .pow) rest = none :=
      nextOperator?_of_ends ends (by rintro (_ | _ | _ | _ | _) <;> decide)
    have ends' := ends_mono (fun _ _ => rfl) ends
    refine (primary_reads enough inner rest ends').bind (.inl ?_)
    simp only [stops]
  | .raised base stands exponent => by
    intro rest ends
    rw [List.append_assoc, List.cons_append]
    refine (primary_reads enough base _ (ends_cons (Token.mayFollow_of_operator stands _))).bind ?_
    simp only [nextOperator?, stands, beq_self_eq_true, if_true]
    exact (operand_reads enough exponent rest ends).bind (.inl rfl)

theorem primary_reads {allowed : Nat → Prop} {limit bound depth : Nat} {tokens : List Placed}
    {tree : Expression} (enough : limit - depth ≤ bound) :
    Primary allowed depth tokens tree → ∀ rest : List Placed, Ends (fun _ => true) rest →
      Reads (Deep allowed limit)
        (primary (sum (operandWithin bound) (limit - depth)) (tokens ++ rest)) tree rest
  | .number => fun _ ends => .inl (literal_of_ends ends)
  | .imaginary unit => fun _ _ => .inl (if_pos unit)
  | .unit unit => fun _ ends => .inl ((named_of_ends ends).trans (if_pos unit))
  | .pi => fun _ ends => .inl (named_of_ends ends)
  | .group inner => by
    intro rest ends
    rw [List.cons_append, List.append_assoc]
    refine (sum_reads enough inner _ _ _ (ends_cons rfl) (chain_stops rfl)).bind ?_
    exact .inl rfl
  | .emptyCall => fun _ _ => .inl rfl
  | .call given => by
    intro rest ends
    have reads (rounds position : Nat) := arguments_reads enough given rounds position rest
    obtain ⟨first, others, same, opens⟩ := arguments_head given
    rw [same] at reads ⊢
    simp only [List.cons_append, List.append_assoc, List.nil_append] at reads ⊢
    refine Reads.bind ?_ (.inl rfl)
    rw [arguments_cons opens]
    exact reads _ _ (by simp only [List.length_cons, List.length_append]; omega)

theorem arguments_reads {allowed : Nat → Prop} {limit bound depth : Nat} {tokens : List Placed}
    {trees : List Expression} (enough : limit - depth ≤ bound) :
    Arguments allowed depth tokens trees →
      ∀ (rounds position : Nat) (rest : List Placed), tokens.length < rounds →
      Reads (Deep allowed limit)
        (argumentsFrom (sum (operandWithin bound) (limit - depth)) rounds
          (tokens ++ ⟨.rightParen, position⟩ :: rest)) trees rest
  | .last only => by
    intro rounds position rest fewer
    obtain ⟨rounds', rfl⟩ : ∃ rounds', rounds = rounds' + 1 := ⟨rounds - 1, by omega⟩
    exact (sum_reads enough only _ _ _ (ends_cons rfl) (chain_stops rfl)).bind (.inl rfl)
  | .more first others => by
    intro rounds position rest fewer
    obtain ⟨rounds', rfl⟩ : ∃ rounds', rounds = rounds' + 1 := ⟨rounds - 1, by omega⟩
    simp only [List.length_append, List.length_cons] at fewer
    rw [List.append_assoc, List.cons_append]
    refine (sum_reads enough first _ _ _ (ends_cons rfl) (chain_stops rfl)).bind ?_
    exact (arguments_reads enough others rounds' position rest (by omega)).bind (.inl rfl)

end

theorem Reads.ok {α : Type} {deep : Prop} {result : Except ExpressionError (α × List Placed)}
    {value : α} {rest : List Placed} (reads : Reads deep result value rest) (shallow : ¬deep) :
    result = .ok (value, rest) :=
  reads.resolve_right fun isDeep => shallow isDeep.1

theorem derives_reads {allowed : Nat → Prop} {tokens : List Placed} {tree : Expression}
    (limit : Nat) (derived : Derives allowed tokens tree) :
    Reads (Deep allowed limit) (sum (operandWithin limit) limit tokens) tree [] := by
  obtain ⟨operators, derivation⟩ := derived
  have reads := sum_reads (Nat.le_refl limit) derivation [] [] tree ends_nil (chain_stops rfl)
  rw [List.append_nil] at reads
  exact reads

/-- A parser with as much room as there are tokens reads all trees of the tokens, and it gives one
answer only. -/
theorem derives_unique {tokens : List Placed} {tree tree' : Expression}
    (derived : Derives Unlimited tokens tree) (derived' : Derives Unlimited tokens tree') :
    tree = tree' := by
  have shallow : ¬Deep (· < tokens.length) tokens.length := by
    rintro ⟨level, below, above⟩
    exact Nat.not_le_of_lt below above
  have reads := (derives_reads tokens.length (derives_below_length derived)).ok shallow
  have reads' := (derives_reads tokens.length (derives_below_length derived')).ok shallow
  rw [reads] at reads'
  cases reads'
  rfl

theorem ofTokens_reads {allowed : Nat → Prop} {tokens : List Placed} {tree : Expression}
    (derived : Derives allowed tokens tree) :
    Expression.ofTokens tokens = .ok tree ∨ Deep allowed maxDepth ∧
      ∃ position, Expression.ofTokens tokens = .error (.tooDeeplyNested position) := by
  rcases derives_reads maxDepth derived with reads | ⟨isDeep, position, stops⟩
  · left
    show (expressionAt 0 tokens >>= _) = _
    rw [show expressionAt 0 tokens = .ok (tree, []) from reads]
    rfl
  · right
    refine ⟨isDeep, position, ?_⟩
    show (expressionAt 0 tokens >>= _) = _
    rw [show expressionAt 0 tokens = .error (.tooDeeplyNested position) from stops]
    rfl

theorem ofTokens_of_limited {tokens : List Placed} {tree : Expression}
    (derived : Derives Limited tokens tree) : Expression.ofTokens tokens = .ok tree := by
  refine (ofTokens_reads derived).resolve_right ?_
  rintro ⟨⟨level, below, above⟩, _⟩
  exact Nat.not_le_of_lt below above

/-- The parser accepts what the grammar derives within the limit, with the tree derived, and only
that. Without a limit no token list has two trees. Where only the limit is in the way, the parser
says so. -/
theorem ofTokens_decides_grammar :
    (∀ tokens tree, Expression.ofTokens tokens = .ok tree ↔ Derives Limited tokens tree) ∧
    (∀ tokens tree tree', Derives Unlimited tokens tree → Derives Unlimited tokens tree' →
      tree = tree') ∧
    (∀ tokens tree, Derives Unlimited tokens tree → ¬Derives Limited tokens tree →
      ∃ position, Expression.ofTokens tokens = .error (.tooDeeplyNested position)) := by
  refine ⟨?_, ?_, ?_⟩
  · intro tokens tree
    exact ⟨ofTokens_sound, ofTokens_of_limited⟩
  · intro tokens tree tree' derived derived'
    exact derives_unique derived derived'
  · intro tokens tree derived tooDeep
    rcases ofTokens_reads derived with parsed | ⟨_, stops⟩
    · exact absurd (ofTokens_sound parsed) tooDeep
    · exact stops

def signRun : Nat → List Placed
  | 0 => [⟨.number .one, 0⟩]
  | signs + 1 => ⟨.minus, 0⟩ :: signRun signs

def signTree : Nat → Expression
  | 0 => .literal (Complex.ofReal .one) 0
  | signs + 1 => .signed .minus (signTree signs) 0

theorem signRun_operand {allowed : Nat → Prop} {signs depth : Nat}
    (entered : ∀ level, level ≤ depth + signs → allowed level) :
    Operand allowed depth (signRun signs) (signTree signs) := by
  induction signs generalizing depth with
  | zero => exact .power (entered depth (Nat.le_refl _)) (.primary .number)
  | succ signs ih =>
    exact .signed (entered depth (Nat.le_add_right _ _)) rfl
      (ih fun level below => entered level (by omega))

theorem signRun_stops {signs room : Nat} (many : room ≤ signs) :
    operandWithin room room (signRun signs) = .error (.tooDeeplyNested 0) := by
  induction signs generalizing room with
  | zero =>
    obtain rfl : room = 0 := by omega
    rfl
  | succ signs ih =>
    cases room with
    | zero => rfl
    | succ room =>
      rw [operandWithin, signRun, operandInside_of_sign rfl, ih (by omega)]
      rfl

/-- 255 signs still leave room for the number behind them, and 256 do not. -/
theorem long_sign_run_too_deep :
    Derives Limited (signRun 255) (signTree 255) ∧
    Expression.ofTokens (signRun 255) = .ok (signTree 255) ∧
    Derives Unlimited (signRun 256) (signTree 256) ∧
    ¬Derives Limited (signRun 256) (signTree 256) ∧
    (∃ position, Expression.ofTokens (signRun 256) = .error (.tooDeeplyNested position)) ∧
    ∀ tree, Derives Unlimited (signRun 256) tree → tree = signTree 256 := by
  have fits : Derives Limited (signRun 255) (signTree 255) :=
    ⟨0, .product (.operand (signRun_operand fun level below => by
      unfold Limited maxDepth; omega))⟩
  have derived : Derives Unlimited (signRun 256) (signTree 256) :=
    ⟨0, .product (.operand (signRun_operand fun _ _ => trivial))⟩
  have stops : Expression.ofTokens (signRun 256) = .error (.tooDeeplyNested 0) := by
    simp only [Expression.ofTokens, expressionAt, sum, product, chained]
    rw [signRun_stops (by decide)]
    rfl
  have tooDeep : ¬Derives Limited (signRun 256) (signTree 256) := by
    intro limited
    have parsed := (ofTokens_decides_grammar.1 _ _).mpr limited
    rw [stops] at parsed
    cases parsed
  refine ⟨fits, (ofTokens_decides_grammar.1 _ _).mpr fits, derived, tooDeep, ?_, ?_⟩
  · exact ofTokens_decides_grammar.2.2 _ _ derived tooDeep
  · intro tree derived'
    exact ofTokens_decides_grammar.2.1 _ _ _ derived' derived

end Grammar
end DiagramScript
