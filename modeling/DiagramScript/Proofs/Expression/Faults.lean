import DiagramScript.Proofs.Expression.Nodes

/-! Errors of an expression name what is in it. A parser names a token that it was given, the
evaluation of a tree fails at one of its nodes, and the nodes of a tree come from its tokens. So the
character or the name that an error reports stands in the text at the reported position. -/
namespace DiagramScript

namespace ExpressionError

/-- What the error says is about these tokens: the token that it names is one of them. The error of
the tokenizer is about a character. -/
def Concerns (tokens : List Placed) : ExpressionError → Prop
  | .unexpectedCharacter _ _ => False
  | .unexpectedToken token position => ⟨token, position⟩ ∈ tokens
  | .unclosedParen position => ⟨.leftParen, position⟩ ∈ tokens
  | .trailingToken token position => ⟨token, position⟩ ∈ tokens
  | .unknownName name position => ⟨.name name, position⟩ ∈ tokens
  | .unknownFunction name position => ⟨.name name, position⟩ ∈ tokens
  | _ => True

theorem Concerns.mono {tokens seen : List Placed} {cause : ExpressionError}
    (concerns : cause.Concerns tokens) (known : tokens ⊆ seen) : cause.Concerns seen := by
  cases cause <;> first | exact known concerns | exact concerns

def quoted? : ExpressionError → Option (Text × Nat)
  | .unexpectedCharacter found position => some ([found], position)
  | .unknownName name position => some (name, position)
  | .unknownFunction name position => some (name, position)
  | _ => none

end ExpressionError

namespace Parser

/-- What is left over is among the tokens seen, and an error is about them. -/
inductive Within {α : Type} (seen : List Placed) :
    Except ExpressionError (α × List Placed) → Prop
  | read {value : α} {rest : List Placed} : rest ⊆ seen → Within seen (.ok (value, rest))
  | fault {cause : ExpressionError} : cause.Concerns seen → Within seen (.error cause)

def Careful {α : Type} (parser : Parser α) : Prop := ∀ tokens, Within tokens (parser tokens)

namespace Within

variable {α β : Type} {seen tokens : List Placed}

theorem mono {outcome : Except ExpressionError (α × List Placed)} (within : Within tokens outcome)
    (known : tokens ⊆ seen) : Within seen outcome := by
  cases within with
  | read inside => exact .read (List.Subset.trans inside known)
  | fault concerns => exact .fault (concerns.mono known)

theorem bind {first : Except ExpressionError (α × List Placed)}
    {next : α × List Placed → Except ExpressionError (β × List Placed)}
    (within : Within seen first)
    (later : ∀ value rest, rest ⊆ seen → Within seen (next (value, rest))) :
    Within seen (first >>= next) := by
  cases within with
  | read inside => exact later _ _ inside
  | fault concerns => exact .fault concerns

end Within

theorem Careful.on {α : Type} {parser : Parser α} {seen tokens : List Placed}
    (careful : Careful parser) (known : tokens ⊆ seen) : Within seen (parser tokens) :=
  (careful tokens).mono known

section

variable {wanted : Operator → Bool} {operand : Nat → Parser Expression}

theorem nextOperator?_subset {tokens rest : List Placed} {operator : Operator} {position : Nat}
    (found : nextOperator? wanted tokens = some (operator, position, rest)) : rest ⊆ tokens := by
  obtain ⟨token, rfl, _⟩ := Grammar.nextOperator?_eq_some found
  exact List.subset_cons_self _ _

theorem chain_careful (operands : ∀ room, Careful (operand room)) (room : Nat)
    (left : Expression) : Careful (chain wanted operand room left) := by
  intro tokens
  induction room generalizing left tokens with
  | zero =>
    simp only [chain]
    split
    · exact .fault trivial
    · exact .read (List.Subset.refl _)
  | succ room ih =>
    simp only [chain]
    split
    · rename_i found
      refine ((operands room).on (nextOperator?_subset found)).bind fun right rest inside => ?_
      exact (ih _ rest).mono inside
    · exact .read (List.Subset.refl _)

theorem chained_careful (operands : ∀ room, Careful (operand room)) (room : Nat) :
    Careful (chained wanted operand room) := by
  intro tokens
  refine (operands room tokens).bind fun left rest inside => ?_
  exact (chain_careful operands room left).on inside

theorem sum_careful (operands : ∀ room, Careful (operand room)) (room : Nat) :
    Careful (sum operand room) :=
  chained_careful (fun room => chained_careful operands room) room

end

section

variable {inner : Parser Expression}

theorem argumentsFrom_careful (careful : Careful inner) (rounds : Nat) :
    Careful (argumentsFrom inner rounds) := by
  intro tokens
  induction rounds generalizing tokens with
  | zero => exact .fault trivial
  | succ rounds ih =>
    refine (careful tokens).bind fun argument rest inside => ?_
    rcases rest with _ | ⟨⟨token, position⟩, rest⟩
    · exact .fault trivial
    · -- The token behind an argument decides: it is known, as all that was left over.
      obtain ⟨here, behind⟩ := List.cons_subset.mp inside
      dsimp only
      split
      · exact ((ih rest).mono behind).bind fun others rest' inside' => .read inside'
      · exact .read behind
      · exact .fault here

theorem arguments_careful (careful : Careful inner) : Careful (arguments inner) := by
  intro tokens
  unfold arguments
  split
  · exact .read (List.subset_cons_self _ _)
  · exact argumentsFrom_careful careful _ tokens

theorem literal_careful (value : Binary64) (position : Nat) : Careful (literal value position) := by
  intro tokens
  unfold literal
  split
  · split
    · exact .read (List.subset_cons_self _ _)
    · exact .fault List.mem_cons_self
  · exact .read (List.Subset.refl _)

theorem group_within (careful : Careful inner) (position : Nat) (tokens : List Placed) :
    Within (⟨.leftParen, position⟩ :: tokens) (group inner position tokens) := by
  refine (careful.on (List.subset_cons_self _ _)).bind fun contents rest inside => ?_
  dsimp only
  split
  · exact .read (List.cons_subset.mp inside).2
  · exact .fault List.mem_cons_self

theorem named_within (careful : Careful inner) (name : Text) (position : Nat)
    (tokens : List Placed) :
    Within (⟨.name name, position⟩ :: tokens) (named inner name position tokens) := by
  unfold named
  split
  · rename_i opening rest
    have known : rest ⊆ ⟨.name name, position⟩ :: ⟨.leftParen, opening⟩ :: rest :=
      List.subset_cons_of_subset _ (List.subset_cons_self _ _)
    exact ((arguments_careful careful).on known).bind fun given rest' inside => .read inside
  · split
    · exact .read (List.subset_cons_self _ _)
    · split
      · exact .read (List.subset_cons_self _ _)
      · exact .fault List.mem_cons_self

theorem primary_careful (careful : Careful inner) : Careful (primary inner) := by
  rintro (_ | ⟨⟨token, position⟩, rest⟩)
  · exact .fault trivial
  · unfold primary
    dsimp only
    split
    · exact (literal_careful _ position).on (List.subset_cons_self _ _)
    · exact group_within careful position rest
    · exact named_within careful _ position rest
    · exact .fault List.mem_cons_self

theorem power_careful {base exponent : Parser Expression} (bases : Careful base)
    (exponents : Careful exponent) : Careful (power base exponent) := by
  intro tokens
  refine (bases tokens).bind fun left rest inside => ?_
  dsimp only
  split
  · rename_i found
    have behind := List.Subset.trans (nextOperator?_subset found) inside
    exact (exponents.on behind).bind fun right rest' inside' => .read inside'
  · exact .read inside

end

theorem operandWithin_careful (bound room : Nat) : Careful (operandWithin bound room) := by
  induction bound generalizing room with
  | zero => exact fun tokens => .fault trivial
  | succ bound ih =>
    intro tokens
    rcases room with _ | room
    · exact .fault trivial
    · unfold operandWithin operandInside
      split
      · exact ((ih room).on (List.subset_cons_self _ _)).bind fun inner rest inside => .read inside
      · exact ((ih room).on (List.subset_cons_self _ _)).bind fun inner rest inside => .read inside
      · exact power_careful (primary_careful (sum_careful ih room)) (ih room) tokens

end Parser

namespace Expression

theorem ofTokens_concerns {tokens : List Placed} {cause : ExpressionError}
    (failed : ofTokens tokens = .error cause) : cause.Concerns tokens := by
  have within := Parser.sum_careful
    (Parser.operandWithin_careful (Parser.maxDepth - 0)) (Parser.maxDepth - 0) tokens
  simp only [ofTokens, Parser.expressionAt] at failed
  generalize Parser.sum (Parser.operandWithin (Parser.maxDepth - 0)) (Parser.maxDepth - 0) tokens =
    outcome at within failed
  cases within with
  | fault concerns =>
    cases failed
    exact concerns
  | @read tree rest inside =>
    rcases rest with _ | ⟨next, rest⟩
    · cases failed
    · -- The token behind a complete expression is one of those that were left over.
      cases failed
      exact inside List.mem_cons_self

theorem Blames.concerns {cause : ExpressionError} {node : Expression} {placed : Placed}
    {tokens : List Placed} (blames : Blames cause node) (comes : ComesFrom node placed)
    (known : placed ∈ tokens) : cause.Concerns tokens := by
  cases blames with
  | unknown =>
    cases comes
    exact known
  | _ => trivial

theorem value_concerns {text : Text} {cause : ExpressionError}
    (failed : value text = .error cause) :
    tokenize text = .error cause ∨
      ∃ tokens, tokenize text = .ok tokens ∧ cause.Concerns tokens := by
  simp only [value, read, bind_eq_error_iff, bind_eq_ok_iff] at failed
  obtain (refused | ⟨tokens, tokenized, unparsed⟩) | ⟨tree, ⟨tokens, tokenized, parsed⟩, failed⟩ :=
    failed
  · exact .inl refused
  · exact .inr ⟨tokens, tokenized, ofTokens_concerns unparsed⟩
  · obtain ⟨operators, derived⟩ := Grammar.ofTokens_sound parsed
    obtain ⟨node, member, blames⟩ := eval_blames tree failed
    obtain ⟨placed, known, comes⟩ := (Grammar.sum_nodes derived).exists_mem member
    exact .inr ⟨tokens, tokenized, blames.concerns comes known⟩

theorem stands_of_name {text name : Text} {tokens : List Placed} {position : Nat}
    (tokenized : tokenize text = .ok tokens) (known : ⟨.name name, position⟩ ∈ tokens) :
    text.Stands name position ∧ ∀ c ∈ name, continuesName c = true := by
  obtain ⟨piece, belongs, before, meaning, after, split, place, longest⟩ :=
    reads_of_tokenize tokenized known
  have some := (Lexeme.scan?_splits (Lexeme.scan?_eq_some_iff.mpr longest)).2
  obtain ⟨rfl, letters⟩ := Lexeme.spelling_of_name belongs
  exact ⟨⟨some, before, after, split, place⟩, letters⟩

theorem stands_of_value_error {text piece : Text} {cause : ExpressionError} {position : Nat}
    (failed : value text = .error cause) (quotes : cause.quoted? = some (piece, position)) :
    text.Stands piece position ∧
      ((∀ c, cause ≠ .unexpectedCharacter c position) → ∀ c ∈ piece, continuesName c = true) := by
  obtain refused | ⟨tokens, tokenized, concerns⟩ := value_concerns failed
  · obtain ⟨before, c, rest, _, _, rfl⟩ := tokenizeFrom_refuses refused
    cases quotes
    exact ⟨stands_of_unexpectedCharacter refused, fun other => absurd rfl (other c)⟩
  · cases cause with
    | unexpectedCharacter => cases concerns
    | unknownName =>
      cases quotes
      exact (stands_of_name tokenized concerns).imp_right fun letters _ => letters
    | unknownFunction =>
      cases quotes
      exact (stands_of_name tokenized concerns).imp_right fun letters _ => letters
    | _ => cases quotes

end Expression

end DiagramScript
