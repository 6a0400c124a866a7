import DiagramScript.Proofs.Grammar.Runs

/-! Progress of the parser. The outcome of a run is what the parser gives, so the bounds by which
the parser's recursion goes never cut it short: it ends because every round of its loops reads a
token or is the last one. Main statement: `Parser.expressionAt_runs`. -/
namespace DiagramScript.Parser

open Grammar

variable {activity : Activity} {depth nested : Nat} {tokens : List Placed}
  {outcome : Except ExpressionError (activity.Result × List Placed)}

def Rule.parser : Rule → (operands : Nat → Parser Expression) → (room : Nat) → Parser Expression
  | .chain .sum, operands, room => sum operands room
  | .chain .product, operands, room => product operands room
  | .operand, operands, room => operands room
  | .power, operands, room => Parser.power (Parser.primary (sum operands room)) (operands room)
  | .primary, operands, room => Parser.primary (sum operands room)

def chainRound (wanted : Operator → Bool) (operand : Nat → Parser Expression) (room : Nat)
    (left : Expression) : Parser (Option Expression) := fun tokens =>
  match nextOperator? wanted tokens, room with
  | none, _ => .ok (none, tokens)
  | some (_, position, _), 0 => .error (.tooDeeplyNested position)
  | some (operator, position, rest), room + 1 => do
    let (right, rest) ← operand room rest
    .ok (some (.binary operator left right position), rest)

def Activity.parser : (activity : Activity) → (operands : Nat → Parser Expression) → (room : Nat) →
    Parser activity.Result
  | .read rule, operands, room => rule.parser operands room
  | .loop kind left, operands, room => chain kind.wanted (kind.operand.parser operands) room left
  | .round kind left, operands, room =>
    chainRound kind.wanted (kind.operand.parser operands) room left
  | .arguments, operands, room => Parser.arguments (sum operands room)
  | .list, operands, room => someArguments (sum operands room)
  | .item, operands, room => fun tokens =>
    sum operands room tokens >>= fun result => separator result.1 result.2

/- What the parsers do with what they call. -/
section

variable (operands : Nat → Parser Expression) (room : Nat) (tokens : List Placed)

theorem parser_chain (kind : Chain) :
    (Activity.read (.chain kind)).parser operands room tokens =
      (Activity.read kind.operand).parser operands room tokens >>= fun result =>
        (Activity.loop kind result.1).parser operands room result.2 := by
  cases kind <;> rfl

def afterRound (kind : Chain) (left : Expression) : Option Expression → Parser Expression
  | none => fun tokens => .ok (left, tokens)
  | some left' => (Activity.loop kind left').parser operands (room - 1)

theorem parser_loop (kind : Chain) (left : Expression) :
    (Activity.loop kind left).parser operands room tokens =
      (Activity.round kind left).parser operands room tokens >>= fun result =>
        afterRound operands room kind left result.1 result.2 := by
  cases room with
  | zero =>
    simp only [Activity.parser, chain, chainRound]
    cases nextOperator? kind.wanted tokens <;> rfl
  | succ room =>
    simp only [Activity.parser, chain, chainRound]
    cases nextOperator? kind.wanted tokens with
    | none => rfl
    | some next =>
      obtain ⟨operator, position, rest⟩ := next
      dsimp only
      cases kind.operand.parser operands room rest <;> rfl

theorem parser_power :
    (Activity.read .power).parser operands room tokens =
      (Activity.read .primary).parser operands room tokens >>= fun result =>
        exponentOf ((Activity.read .operand).parser operands room) result.1 result.2 :=
  power_eq _ _ tokens

theorem parser_name {name : Text} {position : Nat} {rest : List Placed} (bare : Bare rest) :
    (Activity.read .primary).parser operands room (⟨.name name, position⟩ :: rest) =
      if name ∈ imaginaryUnits then .ok (.literal Complex.i position, rest)
      else if name = piName then .ok (.literal (Complex.ofReal Binary64.pi) position, rest)
      else .error (.unknownName name position) := by
  simp only [Activity.parser, Rule.parser, primary]
  unfold named
  split
  · exact absurd rfl (bare _ rfl)
  · rfl

theorem parser_arguments {tokens : List Placed}
    (opens : ∀ first ∈ tokens.head?, first.token ≠ .rightParen) :
    Activity.arguments.parser operands room tokens =
      Activity.list.parser operands room tokens := by
  simp only [Activity.parser]
  unfold arguments
  split
  · exact absurd rfl (opens _ rfl)
  · rfl

def afterItem (more : Parser (List Expression)) (argument : Expression) :
    (goesOn : Bool) → Parser (List Expression)
  | false => fun tokens => .ok ([argument], tokens)
  | true => fun tokens => do
    let (others, rest) ← more tokens
    .ok (argument :: others, rest)

theorem afterArgument_eq (more : Parser (List Expression)) (argument : Expression) :
    afterArgument more argument tokens =
      separator argument tokens >>= fun result =>
        afterItem more result.1.1 result.1.2 result.2 := by
  rcases tokens with _ | ⟨⟨token, position⟩, rest⟩
  · rfl
  · cases token <;> rfl

theorem parser_list (bound : Nat) :
    Activity.list.parser (operandWithin bound) room tokens =
      Activity.item.parser (operandWithin bound) room tokens >>= fun result =>
        afterItem (Activity.list.parser (operandWithin bound) room) result.1.1 result.1.2
          result.2 := by
  simp only [Activity.parser]
  rw [someArguments_eq (sum_predictive (operandWithin_predictive bound) room), bind_assoc]
  simp only [afterArgument_eq]

end

theorem room_of_entered (entered : depth < maxDepth) :
    maxDepth - depth = maxDepth - (depth + 1) + 1 := by
  omega

theorem room_deeper {bound : Nat} (room : maxDepth - depth ≤ bound) :
    maxDepth - (depth + 1) ≤ bound := by
  omega

theorem operandWithin_entered (entered : depth < maxDepth) {bound : Nat}
    (room : maxDepth - depth ≤ bound) :
    ∃ fewer, maxDepth - (depth + 1) ≤ fewer ∧
      operandWithin bound (maxDepth - depth) =
        operandInside (operandWithin fewer) (maxDepth - (depth + 1)) := by
  rw [room_of_entered entered] at room ⊢
  obtain ⟨fewer, rfl⟩ := Nat.exists_eq_add_of_le' room
  exact ⟨_, Nat.le_add_left _ fewer, rfl⟩

/-- A run gives what the parser gives. The operands may come from any bound that is large enough,
because it goes down by one with every operand that is entered. -/
theorem Run.outcome_eq (run : Run activity depth tokens nested outcome) {bound : Nat}
    (room : maxDepth - depth ≤ bound) :
    outcome = activity.parser (operandWithin bound) (maxDepth - depth) tokens := by
  induction run generalizing bound with
  | chainFails _ ih =>
    rw [parser_chain, ← ih room]
    rfl
  | chain _ _ ih ih' =>
    rw [parser_chain, ← ih room]
    exact ih' room
  | loopFails _ ih =>
    rw [parser_loop, ← ih room]
    rfl
  | loopEnds _ ih =>
    rw [parser_loop, ← ih room]
    rfl
  | loopGoesOn _ _ ih ih' =>
    rw [parser_loop, ← ih room, ih' (room_deeper room), Nat.sub_add_eq]
    rfl
  | noOperator found => simp only [Activity.parser, chainRound, found]
  | operatorTooDeep found deep =>
    simp only [Activity.parser, chainRound, found, Nat.sub_eq_zero_of_le deep]
  | operator found entered _ ih =>
    simp only [Activity.parser, room_of_entered entered, chainRound, found]
    rw [ih (room_deeper room)]
    rfl
  | operandTooDeep deep =>
    simp only [Activity.parser, Rule.parser, Nat.sub_eq_zero_of_le deep, operandWithin_zero]
  | signed entered stands _ ih =>
    obtain ⟨fewer, room', inside⟩ := operandWithin_entered entered room
    simp only [Activity.parser, Rule.parser, inside, operandInside_of_sign stands]
    rw [ih room']
    rfl
  | @unsigned _ tokens _ _ entered unsigned _ ih =>
    obtain ⟨fewer, room', inside⟩ := operandWithin_entered entered room
    simp only [Activity.parser, Rule.parser, inside]
    rw [ih room']
    rcases tokens with _ | ⟨first, rest⟩
    · rfl
    · exact (operandInside_of_no_sign (unsigned first rfl)).symm
  | baseFails _ ih =>
    rw [parser_power, ← ih room]
    rfl
  | base _ found ih =>
    rw [parser_power, ← ih room]
    simp only [bind, Except.bind, exponentOf, found]
  | raised _ found _ ih ih' =>
    rw [parser_power, ← ih room, ih' room]
    simp only [bind, Except.bind, exponentOf, found]
  | ended => rfl
  | number => rfl
  | group _ ih =>
    rw [ih room]
    rfl
  | unit bare isUnit =>
    rw [parser_name _ _ bare, if_pos isUnit]
  | pi bare noUnit isPi =>
    rw [parser_name _ _ bare, if_neg noUnit, if_pos isPi]
  | unknown bare noUnit noPi =>
    rw [parser_name _ _ bare, if_neg noUnit, if_neg noPi]
  | call _ ih =>
    rw [ih room]
    rfl
  | @refused _ token _ _ noNumber noGroup noName =>
    cases token with
    | number value => exact absurd rfl (noNumber value)
    | leftParen => exact absurd rfl noGroup
    | name name => exact absurd rfl (noName name)
    | _ => rfl
  | noArguments => rfl
  | someArguments opens _ ih => rw [parser_arguments _ _ opens, ih room]
  | listFails _ ih =>
    rw [parser_list, ← ih room]
    rfl
  | listEnds _ ih =>
    rw [parser_list, ← ih room]
    rfl
  | listGoesOn _ _ ih ih' =>
    rw [parser_list, ← ih room, ih' room]
    rfl
  | item _ ih =>
    rw [ih room]
    rfl

def Activity.parserAt (activity : Activity) (depth : Nat) : Parser activity.Result :=
  activity.parser (operandWithin (maxDepth - depth)) (maxDepth - depth)

theorem run_parserAt (activity : Activity) (depth : Nat) (tokens : List Placed) :
    ∃ nested, Run activity depth tokens nested (activity.parserAt depth tokens) := by
  obtain ⟨nested, outcome, run⟩ := hasRun activity depth tokens
  obtain rfl : outcome = activity.parserAt depth tokens := run.outcome_eq (Nat.le_refl _)
  exact ⟨nested, run⟩

theorem Run.outcome_unique {nested' : Nat}
    {outcome' : Except ExpressionError (activity.Result × List Placed)}
    (run : Run activity depth tokens nested outcome)
    (run' : Run activity depth tokens nested' outcome') : outcome = outcome' :=
  (run.outcome_eq (Nat.le_refl _)).trans (run'.outcome_eq (Nat.le_refl _)).symm

/-- What is left over of some tokens after at least one of them has been read. -/
def ProperRest (rest tokens : List Placed) : Prop :=
  rest <:+ tokens ∧ rest.length < tokens.length

/-- The parser of expressions has a run on all tokens at every depth, and every run gives what the
parser gives, with at most 256 operands inside one another. An expression reads at least one token.
So does every round of a chain that goes on, and every argument of a list with the token behind it;
when a round fails, its loop fails with it. -/
theorem expressionAt_runs (depth : Nat) (tokens : List Placed) :
    (∃ nested, Run (.read (.chain .sum)) depth tokens nested (expressionAt depth tokens)) ∧
    (∀ nested outcome, Run (.read (.chain .sum)) depth tokens nested outcome →
      outcome = expressionAt depth tokens ∧ nested ≤ 256 - depth) ∧
    (∀ tree rest, expressionAt depth tokens = .ok (tree, rest) → ProperRest rest tokens) ∧
    (∀ kind left left' nested rest,
      Run (.round kind left) depth tokens nested (.ok (some left', rest)) →
        ProperRest rest tokens) ∧
    (∀ kind left nested nested' cause outcome,
      Run (.round kind left) depth tokens nested (.error cause) →
        Run (.loop kind left) depth tokens nested' outcome → outcome = .error cause) ∧
    (∀ argument goesOn nested rest,
      Run .item depth tokens nested (.ok ((argument, goesOn), rest)) → ProperRest rest tokens) ∧
    ∀ nested nested' cause outcome, Run .item depth tokens nested (.error cause) →
      Run .list depth tokens nested' outcome → outcome = .error cause := by
  refine ⟨run_parserAt (.read (.chain .sum)) depth tokens, ?_, ?_, ?_, ?_, ?_, ?_⟩
  · intro nested outcome run
    exact ⟨run.outcome_eq (Nat.le_refl _), run.nested_le⟩
  · intro tree rest succeeded
    obtain ⟨nested, run⟩ := run_parserAt (.read (.chain .sum)) depth tokens
    exact run.consumes tree rest succeeded
  · intro kind left left' nested rest run
    exact run.consumes (some left') rest rfl
  · intro kind left nested nested' cause outcome run loop
    exact loop.outcome_unique (.loopFails run)
  · intro argument goesOn nested rest run
    exact run.consumes (argument, goesOn) rest rfl
  · intro nested nested' cause outcome run list
    exact list.outcome_unique (.listFails run)

/-- Two signs and a number are three operands inside one another. Behind something else the first
sign is an operator, which is refused at the limit. In a list a parenthesis must follow. -/
theorem expressionAt_runs_signs :
    (Run (.read (.chain .sum)) 0 (signRun 2) 3 (.ok (signTree 2, [])) ∧
      expressionAt 0 (signRun 2) = .ok (signTree 2, []) ∧ ProperRest [] (signRun 2)) ∧
    (∃ nested, Run (.round .sum (signTree 0)) 0 (signRun 2) nested
        (.ok (some (.binary .sub (signTree 0) (signTree 1) 0), [])) ∧ ProperRest [] (signRun 2)) ∧
    (∃ nested, Run (.loop .sum (signTree 0)) 256 (signRun 2) nested
        (.error (.tooDeeplyNested 0))) ∧
    (∃ nested, Run .item 0 (signRun 2 ++ [⟨.rightParen, 0⟩]) nested
        (.ok ((signTree 2, false), [])) ∧ ProperRest [] (signRun 2 ++ [⟨.rightParen, 0⟩])) ∧
    ∃ nested, Run .list 0 (signRun 2) nested (.error .unexpectedEnd) := by
  have entered (depth : Nat) (below : depth < 3) : depth < maxDepth :=
    Nat.lt_trans below (by decide)
  have number : Run (.read .operand) 2 (signRun 0) 1 (.ok (signTree 0, [])) :=
    .unsigned (entered 2 (by decide)) (by rintro first ⟨⟩; rfl) (.base .number rfl)
  have operand : Run (.read Chain.product.operand) 0 (signRun 2) 3 (.ok (signTree 2, [])) :=
    .signed (entered 0 (by decide)) rfl (.signed (entered 1 (by decide)) rfl number)
  have product : Run (.read Chain.sum.operand) 0 (signRun 2) 3 (.ok (signTree 2, [])) :=
    .chain operand (.loopEnds (.noOperator rfl))
  have sum : Run (.read (.chain .sum)) 0 (signRun 2) 3 (.ok (signTree 2, [])) :=
    .chain product (.loopEnds (.noOperator rfl))
  obtain ⟨_, whole, progress, round, _, _, itemFails⟩ := expressionAt_runs 0 (signRun 2)
  have read : expressionAt 0 (signRun 2) = .ok (signTree 2, []) := (whole _ _ sum).1.symm
  refine ⟨⟨sum, read, progress _ _ read⟩, ?_, ?_, ?_, ?_⟩
  · obtain ⟨nested, run⟩ := run_parserAt (.round .sum (signTree 0)) 0 (signRun 2)
    exact ⟨nested, run, round _ _ _ _ _ run⟩
  · obtain ⟨_, _, _, _, roundFails, _⟩ := expressionAt_runs 256 (signRun 2)
    obtain ⟨nested, run⟩ := run_parserAt (.loop .sum (signTree 0)) 256 (signRun 2)
    rw [roundFails _ _ _ _ _ _ (.operatorTooDeep rfl (Nat.le_refl _)) run] at run
    exact ⟨nested, run⟩
  · obtain ⟨_, _, _, _, _, item, _⟩ := expressionAt_runs 0 (signRun 2 ++ [⟨.rightParen, 0⟩])
    obtain ⟨nested, run⟩ := run_parserAt .item 0 (signRun 2 ++ [⟨.rightParen, 0⟩])
    exact ⟨nested, run, item _ _ _ _ run⟩
  · obtain ⟨nested, run⟩ := run_parserAt .list 0 (signRun 2)
    rw [itemFails _ _ _ _ (.item sum) run] at run
    exact ⟨nested, run⟩

end DiagramScript.Parser
