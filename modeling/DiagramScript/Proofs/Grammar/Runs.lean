import DiagramScript.Proofs.Grammar.Prefixes

/-! Runs of the parser. Its functions call each other without going deeper every time and without
reading a token every time, and three loops call back into them. Here a run is built from the runs
of what is called, by rules without any bound but the depth that the parser itself checks, so every
run is finite. Every token list has a run, no run has more operands inside one another than the
depth allows, and what is left over is an end of the tokens. Main statements: `Parser.hasRun`,
`Parser.Run.nested_le`, `Parser.Run.consumes`. -/
namespace DiagramScript.Parser

open Grammar

inductive Chain where
  | sum
  | product

inductive Rule where
  | chain (kind : Chain)
  | operand
  | power
  | primary

namespace Chain

def wanted : Chain → Operator → Bool
  | .sum => Operator.isAdditive
  | .product => Operator.isMultiplicative

def operand : Chain → Rule
  | .sum => .chain .product
  | .product => .operand

end Chain

/-- What the parser can be at: a function that reads by a rule of the grammar or reads arguments,
the loop of a chain or of a list, or one round of such a loop. -/
inductive Activity where
  | read (rule : Rule)
  | loop (kind : Chain) (left : Expression)
  | round (kind : Chain) (left : Expression)
  | arguments
  | list
  | item

/-- A round of a chain gives nothing if no operator follows, and a round of a list tells whether a
comma follows the argument. -/
abbrev Activity.Result : Activity → Type
  | .round _ _ => Option Expression
  | .arguments => List Expression
  | .list => List Expression
  | .item => Expression × Bool
  | _ => Expression

/-- No parenthesis follows, so a name in front is no call. -/
def Bare (rest : List Placed) : Prop :=
  ∀ first ∈ rest.head?, first.token ≠ .leftParen

def separator (argument : Expression) : Parser (Expression × Bool)
  | [] => .error .unexpectedEnd
  | ⟨.comma, _⟩ :: rest => .ok ((argument, true), rest)
  | ⟨.rightParen, _⟩ :: rest => .ok ((argument, false), rest)
  | ⟨token, position⟩ :: _ => .error (.unexpectedToken token position)

/-- Runs at a depth on tokens. The first number is how many operands that pass the check of the
depth are inside one another at most. -/
inductive Run : (activity : Activity) → (depth : Nat) → (tokens : List Placed) → (nested : Nat) →
    Except ExpressionError (activity.Result × List Placed) → Prop
  | chainFails {kind depth tokens nested cause} :
      Run (.read kind.operand) depth tokens nested (.error cause) →
      Run (.read (.chain kind)) depth tokens nested (.error cause)
  | chain {kind depth tokens left rest nested nested'}
      {outcome : Except ExpressionError (Expression × List Placed)} :
      Run (.read kind.operand) depth tokens nested (.ok (left, rest)) →
      Run (.loop kind left) depth rest nested' outcome →
      Run (.read (.chain kind)) depth tokens (max nested nested') outcome
  | loopFails {kind left depth tokens nested cause} :
      Run (.round kind left) depth tokens nested (.error cause) →
      Run (.loop kind left) depth tokens nested (.error cause)
  | loopEnds {kind left depth tokens rest nested} :
      Run (.round kind left) depth tokens nested (.ok (none, rest)) →
      Run (.loop kind left) depth tokens nested (.ok (left, rest))
  | loopGoesOn {kind left left' depth tokens rest nested nested'}
      {outcome : Except ExpressionError (Expression × List Placed)} :
      Run (.round kind left) depth tokens nested (.ok (some left', rest)) →
      Run (.loop kind left') (depth + 1) rest nested' outcome →
      Run (.loop kind left) depth tokens (max nested nested') outcome
  | noOperator {kind left depth tokens} : nextOperator? kind.wanted tokens = none →
      Run (.round kind left) depth tokens 0 (.ok (none, tokens))
  | operatorTooDeep {kind left depth tokens operator position rest} :
      nextOperator? kind.wanted tokens = some (operator, position, rest) → maxDepth ≤ depth →
      Run (.round kind left) depth tokens 0 (.error (.tooDeeplyNested position))
  | operator {kind left depth tokens operator position rest nested}
      {outcome : Except ExpressionError (Expression × List Placed)} :
      nextOperator? kind.wanted tokens = some (operator, position, rest) → depth < maxDepth →
      Run (.read kind.operand) (depth + 1) rest nested outcome →
      Run (.round kind left) depth tokens nested (do
        let (right, rest) ← outcome
        .ok (some (.binary operator left right position), rest))
  | operandTooDeep {depth tokens} : maxDepth ≤ depth →
      Run (.read .operand) depth tokens 0 (.error (.tooDeeplyNested (startOf tokens)))
  | signed {depth token sign position rest nested}
      {outcome : Except ExpressionError (Expression × List Placed)} :
      depth < maxDepth → token.sign? = some sign →
      Run (.read .operand) (depth + 1) rest nested outcome →
      Run (.read .operand) depth (⟨token, position⟩ :: rest) (nested + 1) (do
        let (inner, rest) ← outcome
        .ok (.signed sign inner position, rest))
  | unsigned {depth tokens nested outcome} :
      depth < maxDepth → (∀ first ∈ tokens.head?, first.token.sign? = none) →
      Run (.read .power) (depth + 1) tokens nested outcome →
      Run (.read .operand) depth tokens (nested + 1) outcome
  | baseFails {depth tokens nested cause} :
      Run (.read .primary) depth tokens nested (.error cause) →
      Run (.read .power) depth tokens nested (.error cause)
  | base {depth tokens left rest nested} :
      Run (.read .primary) depth tokens nested (.ok (left, rest)) →
      nextOperator? (· == .pow) rest = none →
      Run (.read .power) depth tokens nested (.ok (left, rest))
  | raised {depth tokens left rest operator position rest' nested nested'}
      {outcome : Except ExpressionError (Expression × List Placed)} :
      Run (.read .primary) depth tokens nested (.ok (left, rest)) →
      nextOperator? (· == .pow) rest = some (operator, position, rest') →
      Run (.read .operand) depth rest' nested' outcome →
      Run (.read .power) depth tokens (max nested nested') (do
        let (right, rest) ← outcome
        .ok (.binary operator left right position, rest))
  | ended {depth} : Run (.read .primary) depth [] 0 (.error .unexpectedEnd)
  | number {depth value position rest} :
      Run (.read .primary) depth (⟨.number value, position⟩ :: rest) 0 (literal value position rest)
  | group {depth position rest nested}
      {outcome : Except ExpressionError (Expression × List Placed)} :
      Run (.read (.chain .sum)) depth rest nested outcome →
      Run (.read .primary) depth (⟨.leftParen, position⟩ :: rest) nested (do
        let (contents, rest) ← outcome
        closed position contents rest)
  | unit {depth name position rest} : Bare rest → name ∈ imaginaryUnits →
      Run (.read .primary) depth (⟨.name name, position⟩ :: rest) 0
        (.ok (.literal Complex.i position, rest))
  | pi {depth name position rest} : Bare rest → name ∉ imaginaryUnits → name = piName →
      Run (.read .primary) depth (⟨.name name, position⟩ :: rest) 0
        (.ok (.literal (Complex.ofReal Binary64.pi) position, rest))
  | unknown {depth name position rest} : Bare rest → name ∉ imaginaryUnits → name ≠ piName →
      Run (.read .primary) depth (⟨.name name, position⟩ :: rest) 0
        (.error (.unknownName name position))
  | call {depth name position opening rest nested}
      {outcome : Except ExpressionError (List Expression × List Placed)} :
      Run .arguments depth rest nested outcome →
      Run (.read .primary) depth (⟨.name name, position⟩ :: ⟨.leftParen, opening⟩ :: rest)
        nested (do
          let (given, rest) ← outcome
          .ok (.call name given position, rest))
  | refused {depth token position rest} : (∀ value, token ≠ .number value) →
      token ≠ .leftParen → (∀ name, token ≠ .name name) →
      Run (.read .primary) depth (⟨token, position⟩ :: rest) 0
        (.error (.unexpectedToken token position))
  | noArguments {depth position rest} :
      Run .arguments depth (⟨.rightParen, position⟩ :: rest) 0 (.ok ([], rest))
  | someArguments {depth tokens nested outcome} :
      (∀ first ∈ tokens.head?, first.token ≠ .rightParen) → Run .list depth tokens nested outcome →
      Run .arguments depth tokens nested outcome
  | listFails {depth tokens nested cause} : Run .item depth tokens nested (.error cause) →
      Run .list depth tokens nested (.error cause)
  | listEnds {depth tokens argument rest nested} :
      Run .item depth tokens nested (.ok ((argument, false), rest)) →
      Run .list depth tokens nested (.ok ([argument], rest))
  | listGoesOn {depth tokens argument rest nested nested'}
      {outcome : Except ExpressionError (List Expression × List Placed)} :
      Run .item depth tokens nested (.ok ((argument, true), rest)) →
      Run .list depth rest nested' outcome →
      Run .list depth tokens (max nested nested') (do
        let (others, rest) ← outcome
        .ok (argument :: others, rest))
  | item {depth tokens nested}
      {outcome : Except ExpressionError (Expression × List Placed)} :
      Run (.read (.chain .sum)) depth tokens nested outcome →
      Run .item depth tokens nested (do
        let (argument, rest) ← outcome
        separator argument rest)

variable {activity : Activity} {depth nested : Nat} {tokens : List Placed}
  {outcome : Except ExpressionError (activity.Result × List Placed)}

/-- Every operand inside another one is deeper by one, and none is entered at the limit. -/
theorem Run.nested_le (run : Run activity depth tokens nested outcome) :
    nested ≤ maxDepth - depth := by
  -- A rule that enters an operand asks for room, and the others only take the larger number.
  induction run <;> omega

/-- How many tokens an activity has read at least when it gives this. -/
def Activity.least : (activity : Activity) → activity.Result → Nat
  | .loop _ _, _ => 0
  | .round _ _, none => 0
  | .round _ _, some _ => 1
  | .read _, _ => 1
  | .arguments, _ => 1
  | .list, _ => 1
  | .item, _ => 1

/-- After a success so many tokens are read, and the others are left over as they stand. -/
def Consumes {α : Type} (least : α → Nat) (tokens : List Placed)
    (outcome : Except ExpressionError (α × List Placed)) : Prop :=
  ∀ value rest, outcome = .ok (value, rest) →
    rest <:+ tokens ∧ rest.length + least value ≤ tokens.length

namespace Consumes

variable {α β : Type} {least : α → Nat} {least' : β → Nat} {tokens tokens' rest : List Placed}

theorem of_error {cause : ExpressionError} : Consumes least tokens (.error cause) := nofun

theorem of_ok {value : α} (ends : rest <:+ tokens)
    (fewer : rest.length + least value ≤ tokens.length) :
    Consumes least tokens (.ok (value, rest)) := by
  rintro value' rest' same
  cases same
  exact ⟨ends, fewer⟩

theorem mono {outcome : Except ExpressionError (α × List Placed)}
    (consumes : Consumes least tokens' outcome) (ends : tokens' <:+ tokens) :
    Consumes least tokens outcome := by
  intro value rest succeeded
  obtain ⟨ends', fewer⟩ := consumes value rest succeeded
  exact ⟨ends'.trans ends, Nat.le_trans fewer ends.length_le⟩

theorem behind {outcome : Except ExpressionError (α × List Placed)} {first : Placed}
    (consumes : Consumes least tokens outcome) : Consumes least (first :: tokens) outcome :=
  consumes.mono (List.suffix_cons _ _)

theorem bind {first : Except ExpressionError (β × List Placed)}
    {next : β × List Placed → Except ExpressionError (α × List Placed)}
    (consumes : Consumes least' tokens first)
    (later : ∀ value rest, rest <:+ tokens → rest.length + least' value ≤ tokens.length →
      Consumes least tokens (next (value, rest))) :
    Consumes least tokens (first >>= next) := by
  intro value rest succeeded
  obtain ⟨⟨value', rest'⟩, succeeded', onward⟩ := bind_eq_ok_iff.mp succeeded
  obtain ⟨ends, fewer⟩ := consumes value' rest' succeeded'
  exact later value' rest' ends fewer value rest onward

end Consumes

theorem literal_consumes (value : Binary64) (position : Nat) (rest : List Placed) :
    Consumes (fun _ => 1) (⟨.number value, position⟩ :: rest) (literal value position rest) := by
  unfold literal
  split
  · split
    · exact .of_ok ((List.suffix_cons _ _).trans (List.suffix_cons _ _)) (Nat.le_succ _)
    · exact .of_error
  · exact .of_ok (List.suffix_cons _ _) (Nat.le_refl _)

theorem closed_consumes (position : Nat) (contents : Expression) (tokens : List Placed) :
    Consumes (fun _ => 1) tokens (closed position contents tokens) := by
  unfold closed
  split
  · exact .of_ok (List.suffix_cons _ _) (Nat.le_refl _)
  · exact .of_error

theorem separator_consumes (argument : Expression) (tokens : List Placed) :
    Consumes (fun _ => 1) tokens (separator argument tokens) := by
  unfold separator
  split
  · exact .of_error
  · exact .of_ok (List.suffix_cons _ _) (Nat.le_refl _)
  · exact .of_ok (List.suffix_cons _ _) (Nat.le_refl _)
  · exact .of_error

/-- What a run leaves over is what stands at the end of its tokens, and only a loop that ends at
once has read nothing. -/
theorem Run.consumes (run : Run activity depth tokens nested outcome) :
    Consumes activity.least tokens outcome := by
  induction run with
  | chainFails => exact .of_error
  | chain _ _ ih ih' =>
    obtain ⟨ends, fewer⟩ := ih _ _ rfl
    intro value rest succeeded
    obtain ⟨ends', fewer'⟩ := ih' value rest succeeded
    exact ⟨ends'.trans ends, Nat.le_trans (Nat.succ_le_succ fewer') fewer⟩
  | loopFails => exact .of_error
  | loopEnds _ ih =>
    obtain ⟨ends, fewer⟩ := ih _ _ rfl
    exact .of_ok ends fewer
  | loopGoesOn _ _ ih ih' =>
    obtain ⟨ends, _⟩ := ih _ _ rfl
    exact ih'.mono ends
  | noOperator => exact .of_ok List.suffix_rfl (Nat.le_refl _)
  | operatorTooDeep => exact .of_error
  | operator found _ _ ih =>
    obtain ⟨token, rfl, _⟩ := nextOperator?_eq_some found
    exact ih.behind.bind fun right rest ends fewer => .of_ok ends fewer
  | operandTooDeep => exact .of_error
  | signed _ _ _ ih => exact ih.behind.bind fun inner rest ends fewer => .of_ok ends fewer
  | unsigned _ _ _ ih => exact ih
  | baseFails => exact .of_error
  | base _ _ ih =>
    obtain ⟨ends, fewer⟩ := ih _ _ rfl
    exact .of_ok ends fewer
  | raised _ found _ ih ih' =>
    obtain ⟨ends, _⟩ := ih _ _ rfl
    obtain ⟨token, rfl, _⟩ := nextOperator?_eq_some found
    exact (ih'.behind.mono ends).bind fun right rest ends fewer => .of_ok ends fewer
  | ended => exact .of_error
  | number => exact literal_consumes _ _ _
  | group _ ih =>
    refine ih.behind.bind fun contents rest ends _ => ?_
    exact (closed_consumes _ contents rest).mono ends
  | unit => exact .of_ok (List.suffix_cons _ _) (Nat.le_refl _)
  | pi => exact .of_ok (List.suffix_cons _ _) (Nat.le_refl _)
  | unknown => exact .of_error
  | call _ ih => exact ih.behind.behind.bind fun given rest ends fewer => .of_ok ends fewer
  | refused => exact .of_error
  | noArguments => exact .of_ok (List.suffix_cons _ _) (Nat.le_refl _)
  | someArguments _ _ ih => exact ih
  | listFails => exact .of_error
  | listEnds _ ih =>
    obtain ⟨ends, fewer⟩ := ih _ _ rfl
    exact .of_ok ends fewer
  | listGoesOn _ _ ih ih' =>
    obtain ⟨ends, _⟩ := ih _ _ rfl
    exact (ih'.mono ends).bind fun others rest ends fewer => .of_ok ends fewer
  | item _ ih =>
    refine ih.bind fun argument rest ends _ => ?_
    exact (separator_consumes argument rest).mono ends

theorem Run.entered {kind : Chain} {left left' : Expression} {rest : List Placed}
    {outcome : Except ExpressionError (Option Expression × List Placed)}
    (run : Run (.round kind left) depth tokens nested outcome)
    (goesOn : outcome = .ok (some left', rest)) : depth < maxDepth := by
  cases run with
  | noOperator => cases goesOn
  | operatorTooDeep => cases goesOn
  | operator _ entered => exact entered

def HasRun (activity : Activity) (depth : Nat) (tokens : List Placed) : Prop :=
  ∃ nested outcome, Run activity depth tokens nested outcome

/- An activity has a run if everything deeper has one, and everything as deep with fewer tokens.
What it calls as deep with the same tokens is further down in the grammar. -/
section

variable (deeper : depth < maxDepth → ∀ activity tokens, HasRun activity (depth + 1) tokens)
  (shorter : ∀ (activity : Activity) (rest : List Placed), rest.length < tokens.length →
    HasRun activity depth rest)

include deeper in
theorem hasRun_round (kind : Chain) (left : Expression) :
    HasRun (.round kind left) depth tokens := by
  cases found : nextOperator? kind.wanted tokens with
  | none => exact ⟨_, _, .noOperator found⟩
  | some next =>
    obtain ⟨operator, position, rest⟩ := next
    by_cases entered : depth < maxDepth
    · obtain ⟨nested, outcome, run⟩ := deeper entered (.read kind.operand) rest
      exact ⟨_, _, .operator found entered run⟩
    · exact ⟨_, _, .operatorTooDeep found (Nat.le_of_not_lt entered)⟩

include deeper in
theorem hasRun_loop (kind : Chain) (left : Expression) :
    HasRun (.loop kind left) depth tokens := by
  have round : HasRun (.round kind left) depth tokens := hasRun_round deeper kind left
  obtain ⟨nested, outcome, run⟩ := round
  rcases outcome with cause | ⟨none | left', rest⟩
  · exact ⟨_, _, .loopFails run⟩
  · exact ⟨_, _, .loopEnds run⟩
  · obtain ⟨nested', outcome', run'⟩ := deeper (run.entered rfl) (.loop kind left') rest
    exact ⟨_, _, .loopGoesOn run run'⟩

include deeper in
theorem hasRun_operand : HasRun (.read .operand) depth tokens := by
  by_cases entered : depth < maxDepth
  · by_cases signed : ∃ first ∈ tokens.head?, ∃ sign, first.token.sign? = some sign
    · obtain ⟨⟨token, position⟩, start, sign, stands⟩ := signed
      obtain ⟨rest, rfl⟩ := List.head?_eq_some_iff.mp start
      obtain ⟨nested, outcome, run⟩ := deeper entered (.read .operand) rest
      exact ⟨_, _, .signed entered stands run⟩
    · have unsigned : ∀ first ∈ tokens.head?, first.token.sign? = none := by
        intro first start
        refine Option.eq_none_iff_forall_ne_some.mpr fun sign stands => ?_
        exact signed ⟨first, start, sign, stands⟩
      obtain ⟨nested, outcome, run⟩ := deeper entered (.read .power) tokens
      exact ⟨_, _, .unsigned entered unsigned run⟩
  · exact ⟨_, _, .operandTooDeep (Nat.le_of_not_lt entered)⟩

include shorter in
theorem hasRun_chain {kind : Chain} (operand : HasRun (.read kind.operand) depth tokens) :
    HasRun (.read (.chain kind)) depth tokens := by
  obtain ⟨nested, outcome, run⟩ := operand
  rcases outcome with cause | ⟨left, rest⟩
  · exact ⟨_, _, .chainFails run⟩
  · obtain ⟨_, fewer⟩ := run.consumes left rest rfl
    obtain ⟨nested', outcome', run'⟩ := shorter (.loop kind left) rest fewer
    exact ⟨_, _, .chain run run'⟩

include shorter in
theorem hasRun_primary : HasRun (.read .primary) depth tokens := by
  rcases tokens with _ | ⟨⟨token, position⟩, rest⟩
  · exact ⟨_, _, .ended⟩
  · cases token with
    | number value => exact ⟨_, _, .number⟩
    | leftParen =>
      obtain ⟨nested, outcome, run⟩ := shorter (.read (.chain .sum)) rest (Nat.lt_succ_self _)
      exact ⟨_, _, .group run⟩
    | name name =>
      by_cases opens : ∃ first ∈ rest.head?, first.token = .leftParen
      · obtain ⟨⟨_, opening⟩, start, rfl⟩ := opens
        obtain ⟨rest, rfl⟩ := List.head?_eq_some_iff.mp start
        obtain ⟨nested, outcome, run⟩ := shorter .arguments rest
          (Nat.lt_succ_of_lt (Nat.lt_succ_self _))
        exact ⟨_, _, .call run⟩
      · have bare : Bare rest := fun first start opening => opens ⟨first, start, opening⟩
        by_cases isUnit : name ∈ imaginaryUnits
        · exact ⟨_, _, .unit bare isUnit⟩
        · by_cases isPi : name = piName
          · exact ⟨_, _, .pi bare isUnit isPi⟩
          · exact ⟨_, _, .unknown bare isUnit isPi⟩
    | _ => exact ⟨_, _, .refused nofun nofun nofun⟩

include shorter in
theorem hasRun_power : HasRun (.read .power) depth tokens := by
  obtain ⟨nested, outcome, run⟩ := hasRun_primary shorter
  rcases outcome with cause | ⟨left, rest⟩
  · exact ⟨_, _, .baseFails run⟩
  · obtain ⟨_, fewer⟩ := run.consumes left rest rfl
    cases found : nextOperator? (· == .pow) rest with
    | none => exact ⟨_, _, .base run found⟩
    | some next =>
      obtain ⟨operator, position, rest'⟩ := next
      have behind := nextOperator?_length found
      obtain ⟨nested', outcome', run'⟩ := shorter (.read .operand) rest' (by omega)
      exact ⟨_, _, .raised run found run'⟩

include shorter in
theorem hasRun_list (item : HasRun .item depth tokens) : HasRun .list depth tokens := by
  obtain ⟨nested, outcome, run⟩ := item
  rcases outcome with cause | ⟨⟨argument, goesOn⟩, rest⟩
  · exact ⟨_, _, .listFails run⟩
  · obtain ⟨_, fewer⟩ := run.consumes _ rest rfl
    cases goesOn with
    | false => exact ⟨_, _, .listEnds run⟩
    | true =>
      obtain ⟨nested', outcome', run'⟩ := shorter .list rest fewer
      exact ⟨_, _, .listGoesOn run run'⟩

theorem hasRun_arguments (list : HasRun .list depth tokens) : HasRun .arguments depth tokens := by
  by_cases closes : ∃ first ∈ tokens.head?, first.token = .rightParen
  · obtain ⟨⟨_, position⟩, start, rfl⟩ := closes
    obtain ⟨rest, rfl⟩ := List.head?_eq_some_iff.mp start
    exact ⟨_, _, .noArguments⟩
  · obtain ⟨nested, outcome, run⟩ := list
    exact ⟨_, _, .someArguments (fun first start closing => closes ⟨first, start, closing⟩) run⟩

end

/-- The parser ends on all tokens. What it calls is deeper, or it is as deep and has fewer tokens,
or it is as deep with the same tokens and further down in the grammar. -/
theorem hasRun (activity : Activity) (depth : Nat) (tokens : List Placed) :
    HasRun activity depth tokens := by
  induction room : maxDepth - depth using Nat.strongRecOn generalizing activity depth tokens with
  | _ room ih =>
    have deeper (entered : depth < maxDepth) (activity : Activity) (tokens : List Placed) :
        HasRun activity (depth + 1) tokens := ih _ (by omega) activity (depth + 1) tokens rfl
    induction size : tokens.length using Nat.strongRecOn generalizing activity tokens with
    | _ size ih' =>
      have shorter (activity : Activity) (rest : List Placed)
          (fewer : rest.length < tokens.length) : HasRun activity depth rest :=
        ih' _ (size ▸ fewer) activity rest rfl
      have operand : HasRun (.read .operand) depth tokens := hasRun_operand deeper
      have product : HasRun (.read (.chain .product)) depth tokens := hasRun_chain shorter operand
      have sum : HasRun (.read (.chain .sum)) depth tokens := hasRun_chain shorter product
      have item : HasRun .item depth tokens := by
        obtain ⟨nested, outcome, run⟩ := sum
        exact ⟨_, _, .item run⟩
      have list := hasRun_list shorter item
      cases activity with
      | read rule =>
        cases rule with
        | chain kind =>
          cases kind with
          | sum => exact sum
          | product => exact product
        | operand => exact operand
        | power => exact hasRun_power shorter
        | primary => exact hasRun_primary shorter
      | loop kind left => exact hasRun_loop deeper kind left
      | round kind left => exact hasRun_round deeper kind left
      | arguments => exact hasRun_arguments list
      | list => exact list
      | item => exact item

end DiagramScript.Parser
