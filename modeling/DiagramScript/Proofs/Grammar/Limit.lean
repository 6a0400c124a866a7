import DiagramScript.Proofs.Grammar.Completeness

/-! What the limit on the depth does. Two runs of a parser on the same tokens, one with less room
than the other, go side by side until the one with less room gives up on the depth. It can do so
only where there are at least as many tokens as it has room. So with much room nothing is left of
the limit, and the parser is the recursion without one (`Limitless`). Main statement:
`Parser.limit_only_adds_tooDeeplyNested`. -/
namespace DiagramScript.Parser

def TooDeep {α : Type} (outcome : Except ExpressionError (α × List Placed)) : Prop :=
  ∃ position, outcome = .error (.tooDeeplyNested position)

/-- The first outcome is the second one, with at most so many tokens left over, or it gives up on
the depth, and that only where it may. -/
inductive Tracks {α : Type} (deep : Prop) (size : Nat) :
    Except ExpressionError (α × List Placed) → Except ExpressionError (α × List Placed) → Prop
  | read {value : α} {rest : List Placed} : rest.length ≤ size →
      Tracks deep size (.ok (value, rest)) (.ok (value, rest))
  | fault {cause : ExpressionError} : (∀ position, cause ≠ .tooDeeplyNested position) →
      Tracks deep size (.error cause) (.error cause)
  | tooDeep {position : Nat} {outcome : Except ExpressionError (α × List Placed)} : deep →
      Tracks deep size (.error (.tooDeeplyNested position)) outcome

def Alike {α : Type} (deep : Prop) (size : Nat) (parser parser' : Parser α) : Prop :=
  ∀ tokens : List Placed, tokens.length ≤ size →
    Tracks deep tokens.length (parser tokens) (parser' tokens)

namespace Tracks

variable {α β : Type} {deep deep' : Prop} {size size' : Nat}
  {outcome outcome' : Except ExpressionError (α × List Placed)}

theorem mono (tracks : Tracks deep size outcome outcome') (weaker : deep → deep')
    (larger : size ≤ size') : Tracks deep' size' outcome outcome' := by
  cases tracks with
  | read fewer => exact .read (Nat.le_trans fewer larger)
  | fault other => exact .fault other
  | tooDeep isDeep => exact .tooDeep (weaker isDeep)

theorem bind {next next' : α × List Placed → Except ExpressionError (β × List Placed)}
    (tracks : Tracks deep size outcome outcome')
    (later : ∀ value rest, rest.length ≤ size →
      Tracks deep size (next (value, rest)) (next' (value, rest))) :
    Tracks deep size (outcome >>= next) (outcome' >>= next') := by
  cases tracks with
  | read fewer => exact later _ _ fewer
  | fault other => exact .fault other
  | tooDeep isDeep => exact .tooDeep isDeep

theorem tooDeep_or_eq (tracks : Tracks deep size outcome outcome') :
    TooDeep outcome ∨ outcome = outcome' := by
  cases tracks with
  | read => exact .inr rfl
  | fault => exact .inr rfl
  | tooDeep => exact .inl ⟨_, rfl⟩

theorem of_shallow (tracks : Tracks deep size outcome outcome') (shallow : ¬deep) :
    ¬TooDeep outcome ∧ outcome = outcome' := by
  cases tracks with
  | read => exact ⟨nofun, rfl⟩
  | fault other => exact ⟨fun ⟨position, same⟩ => other position (Except.error.inj same), rfl⟩
  | tooDeep isDeep => exact absurd isDeep shallow

end Tracks

theorem Alike.behind {α : Type} {deep : Prop} {size : Nat} {parser parser' : Parser α}
    (alike : Alike deep size parser parser') {first : Placed} {rest : List Placed}
    (small : (first :: rest).length ≤ size + 1) :
    Tracks deep (first :: rest).length (parser rest) (parser' rest) :=
  (alike rest (Nat.le_of_succ_le_succ small)).mono id (Nat.le_succ _)

section

variable {deep : Prop} {size : Nat} {inner inner' : Parser Expression}

theorem argumentsFrom_alike (alike : Alike deep size inner inner') (rounds : Nat) :
    Alike deep size (argumentsFrom inner rounds) (argumentsFrom inner' rounds) := by
  intro tokens small
  induction rounds generalizing tokens with
  | zero => exact .fault nofun
  | succ rounds ih =>
    refine (alike tokens small).bind fun argument rest fewer => ?_
    rcases rest with _ | ⟨⟨token, position⟩, rest⟩
    · exact .fault nofun
    · have shorter : rest.length ≤ tokens.length := Nat.le_of_succ_le fewer
      dsimp only
      split
      · refine ((ih rest (Nat.le_trans shorter small)).mono id shorter).bind ?_
        exact fun others rest' fewer' => .read fewer'
      · exact .read shorter
      · exact .fault nofun

theorem arguments_alike (alike : Alike deep size inner inner') :
    Alike deep size (arguments inner) (arguments inner') := by
  intro tokens small
  unfold arguments
  split
  · exact .read (Nat.le_succ _)
  · exact argumentsFrom_alike alike _ tokens small

theorem literal_tracks (value : Binary64) (position : Nat) (tokens : List Placed) :
    Tracks deep tokens.length (literal value position tokens) (literal value position tokens) := by
  unfold literal
  split
  · split
    · exact .read (Nat.le_succ _)
    · exact .fault nofun
  · exact .read (Nat.le_refl _)

theorem group_alike (alike : Alike deep size inner inner') (position : Nat) :
    Alike deep size (group inner position) (group inner' position) := by
  intro tokens small
  refine (alike tokens small).bind fun contents rest fewer => ?_
  dsimp only
  split
  · exact .read (Nat.le_of_succ_le fewer)
  · exact .fault nofun

theorem named_alike (alike : Alike deep size inner inner') (name : Text) (position : Nat) :
    Alike deep size (named inner name position) (named inner' name position) := by
  intro tokens small
  unfold named
  split
  · refine Tracks.bind ?_ fun given rest fewer => .read fewer
    exact (arguments_alike alike).behind (Nat.le_succ_of_le small)
  · split
    · exact .read (Nat.le_refl _)
    · split
      · exact .read (Nat.le_refl _)
      · exact .fault nofun

theorem primary_alike (alike : Alike deep size inner inner') :
    Alike deep (size + 1) (primary inner) (primary inner') := by
  rintro (_ | ⟨⟨token, position⟩, rest⟩) small
  · exact .fault nofun
  · unfold primary
    dsimp only
    split
    · exact (literal_tracks _ position rest).mono id (Nat.le_succ _)
    · exact (group_alike alike position).behind small
    · exact (named_alike alike _ position).behind small
    · exact .fault nofun

theorem nextOperator?_length {wanted : Operator → Bool} {tokens rest : List Placed}
    {operator : Operator} {position : Nat}
    (found : nextOperator? wanted tokens = some (operator, position, rest)) :
    tokens.length = rest.length + 1 := by
  obtain ⟨token, rfl, _⟩ := Grammar.nextOperator?_eq_some found
  rfl

theorem power_alike {base base' exponent exponent' : Parser Expression}
    (bases : Alike deep (size + 1) base base') (exponents : Alike deep size exponent exponent') :
    Alike deep (size + 1) (power base exponent) (power base' exponent') := by
  intro tokens small
  refine (bases tokens small).bind fun left rest fewer => ?_
  dsimp only
  split
  · rename_i found
    have shorter := nextOperator?_length found
    refine Tracks.bind ?_ fun right rest' fewer' => .read fewer'
    exact (exponents _ (by omega)).mono id (by omega)
  · exact .read fewer

def operandFrom (operand sum : Parser Expression) : Parser Expression
  | ⟨.minus, position⟩ :: rest => do
    let (inner, rest) ← operand rest
    .ok (.signed .minus inner position, rest)
  | ⟨.plus, position⟩ :: rest => do
    let (inner, rest) ← operand rest
    .ok (.signed .plus inner position, rest)
  | tokens => power (primary sum) operand tokens

theorem operandInside_eq (operand : Nat → Parser Expression) (room : Nat) :
    operandInside operand room = operandFrom (operand room) (sum operand room) := rfl

theorem operandFrom_alike {operand operand' sum sum' : Parser Expression}
    (operands : Alike deep size operand operand') (sums : Alike deep size sum sum') :
    Alike deep (size + 1) (operandFrom operand sum) (operandFrom operand' sum') := by
  intro tokens small
  unfold operandFrom
  split
  · exact (operands.behind small).bind fun inner rest fewer => .read fewer
  · exact (operands.behind small).bind fun inner rest fewer => .read fewer
  · exact power_alike (primary_alike sums) operands tokens small

end

/-- Parsers for chains of operands, for every room. The room goes down with every operator; what an
operator does that finds no room is left open. -/
structure Chains (wanted : Operator → Bool) (operand whole : Nat → Parser Expression)
    (further : Nat → Expression → Parser Expression) : Prop where
  starts : ∀ room tokens, whole room tokens = (do
    let (left, rest) ← operand room tokens
    further room left rest)
  goesOn : ∀ room left tokens operator position rest,
    nextOperator? wanted tokens = some (operator, position, rest) →
    further (room + 1) left tokens = (do
      let (right, rest) ← operand room rest
      further room (.binary operator left right position) rest)
  stops : ∀ room left tokens, nextOperator? wanted tokens = none →
    further room left tokens = .ok (left, tokens)

theorem chains_chained (wanted : Operator → Bool) (operand : Nat → Parser Expression) :
    Chains wanted operand (chained wanted operand) (chain wanted operand) where
  starts room tokens := rfl
  goesOn room left tokens operator position rest found := by simp only [chain, found]
  stops room left tokens none := by cases room <;> simp only [chain, none]

/-- Parsers of expressions that know of no depth: the recursion of the limited ones, with the same
parsers for every room. -/
structure Limitless where
  operand : Parser Expression
  product : Parser Expression
  productFrom : Expression → Parser Expression
  sum : Parser Expression
  sumFrom : Expression → Parser Expression
  operand_eq : ∀ tokens, operand tokens = operandFrom operand sum tokens
  products : Chains Operator.isMultiplicative (fun _ => operand) (fun _ => product)
    (fun _ => productFrom)
  sums : Chains Operator.isAdditive (fun _ => product) (fun _ => sum) (fun _ => sumFrom)

/-- The first family of parsers follows the second one, up to a room for each of them. Less room is
enough unless there are as many tokens. -/
def Below (room room' : Nat) (operand operand' : Nat → Parser Expression) : Prop :=
  ∀ inner inner' size, inner ≤ inner' → inner ≤ room → inner' ≤ room' →
    Alike (inner ≤ size) size (operand inner) (operand' inner')

theorem Below.mono {room room' less less' : Nat} {operand operand' : Nat → Parser Expression}
    (below : Below room room' operand operand') (fewer : less ≤ room) (fewer' : less' ≤ room') :
    Below less less' operand operand' :=
  fun inner inner' size le small small' =>
    below inner inner' size le (Nat.le_trans small fewer) (Nat.le_trans small' fewer')

section

variable {wanted : Operator → Bool}
  {operand operand' product' sum' whole' : Nat → Parser Expression}
  {productFrom' sumFrom' further' : Nat → Expression → Parser Expression} {room room' : Nat}

theorem chain_alike (chains : Chains wanted operand' whole' further')
    (below : Below room room' operand operand') (less : room ≤ room') (left : Expression)
    (size : Nat) :
    Alike (room ≤ size) size (chain wanted operand room left) (further' room' left) := by
  induction room generalizing room' left size with
  | zero =>
    intro tokens small
    cases found : nextOperator? wanted tokens with
    | none =>
      simp only [chain, found, chains.stops _ _ _ found]
      exact .read (Nat.le_refl _)
    | some next =>
      simp only [chain, found]
      exact .tooDeep (Nat.zero_le _)
  | succ room ih =>
    obtain ⟨room', rfl⟩ : ∃ room'', room' = room'' + 1 := ⟨room' - 1, by omega⟩
    intro tokens small
    cases found : nextOperator? wanted tokens with
    | none =>
      simp only [chain, found, chains.stops _ _ _ found]
      exact .read (Nat.le_refl _)
    | some next =>
      obtain ⟨operator, position, rest⟩ := next
      have shorter := nextOperator?_length found
      simp only [chain, found, chains.goesOn _ _ _ _ _ _ found]
      have first : Tracks (room + 1 ≤ size) rest.length (operand room rest) (operand' room' rest) :=
        (below room room' rest.length (by omega) (Nat.le_succ _) (Nat.le_succ _) rest
          (Nat.le_refl _)).mono (by omega) (Nat.le_refl _)
      refine (first.bind fun right rest' fewer => ?_).mono id (by omega)
      have later := ih (below.mono (Nat.le_succ _) (Nat.le_succ _)) (by omega)
        (.binary operator left right position) rest'.length rest' (Nat.le_refl _)
      exact later.mono (by omega) fewer

theorem chained_below (chains : Chains wanted operand' whole' further')
    (below : Below room room' operand operand') :
    Below room room' (chained wanted operand) whole' := by
  intro inner inner' size less small small' tokens fits
  rw [chains.starts, chained]
  refine (below inner inner' size less small small' tokens fits).bind fun left rest fewer => ?_
  have later := chain_alike chains (below.mono small small') less left rest.length rest
    (Nat.le_refl _)
  exact later.mono (by omega) fewer

theorem operandInside_alike
    (products : Chains Operator.isMultiplicative operand' product' productFrom')
    (sums : Chains Operator.isAdditive product' sum' sumFrom')
    (below : Below room room' operand operand') (less : room ≤ room') (size : Nat) :
    Alike (room + 1 ≤ size) size (operandInside operand room)
      (operandFrom (operand' room') (sum' room')) := by
  rintro (_ | ⟨first, rest⟩) small
  · exact .fault nofun
  · obtain ⟨size, rfl⟩ : ∃ fewer, size = fewer + 1 := ⟨size - 1, by simp at small; omega⟩
    have sums := chained_below sums (chained_below products below)
    have alike := operandFrom_alike
      (below room room' size less (Nat.le_refl _) (Nat.le_refl _))
      (sums room room' size less (Nat.le_refl _) (Nat.le_refl _))
    rw [operandInside_eq]
    exact (alike _ small).mono (by omega) (Nat.le_refl _)

end

theorem operandWithin_below (bound bound' : Nat) :
    Below bound bound' (operandWithin bound) (operandWithin bound') := by
  intro room room' size less small small'
  induction bound generalizing bound' room room' size with
  | zero =>
    obtain rfl : room = 0 := by omega
    intro tokens _
    rw [Grammar.operandWithin_zero]
    exact .tooDeep (Nat.zero_le _)
  | succ bound ih =>
    rcases room with _ | room
    · intro tokens _
      rw [Grammar.operandWithin_zero]
      exact .tooDeep (Nat.zero_le _)
    · obtain ⟨room', rfl⟩ : ∃ room'', room' = room'' + 1 := ⟨room' - 1, by omega⟩
      obtain ⟨bound', rfl⟩ : ∃ bound'', bound' = bound'' + 1 := ⟨bound' - 1, by omega⟩
      have below : Below room room' (operandWithin bound) (operandWithin bound') :=
        fun inner inner' size less inside inside' =>
          ih bound' inner inner' size less (by omega) (by omega)
      exact operandInside_alike (chains_chained _ _) (chains_chained _ _) below (by omega) size

theorem operandWithin_below_limitless (limitless : Limitless) (bound bound' : Nat) :
    Below bound bound' (operandWithin bound) fun _ => limitless.operand := by
  intro room room' size less small small'
  induction bound generalizing room room' size with
  | zero =>
    obtain rfl : room = 0 := by omega
    intro tokens _
    rw [Grammar.operandWithin_zero]
    exact .tooDeep (Nat.zero_le _)
  | succ bound ih =>
    rcases room with _ | room
    · intro tokens _
      rw [Grammar.operandWithin_zero]
      exact .tooDeep (Nat.zero_le _)
    · have below : Below room room (operandWithin bound) fun _ => limitless.operand :=
        fun inner inner' size less inside inside' =>
          ih inner inner' size less (by omega) (by omega)
      have alike := operandInside_alike limitless.products limitless.sums below (Nat.le_refl _) size
      rwa [← funext limitless.operand_eq] at alike

theorem product_below (bound bound' : Nat) :
    Below bound bound' (product (operandWithin bound)) (product (operandWithin bound')) :=
  chained_below (chains_chained _ _) (operandWithin_below bound bound')

theorem sum_below (bound bound' : Nat) :
    Below bound bound' (sum (operandWithin bound)) (sum (operandWithin bound')) :=
  chained_below (chains_chained _ _) (product_below bound bound')

theorem sum_below_limitless (limitless : Limitless) (bound bound' : Nat) :
    Below bound bound' (sum (operandWithin bound)) fun _ => limitless.sum :=
  chained_below limitless.sums (chained_below limitless.products
    (operandWithin_below_limitless limitless bound bound'))

/-- A limitless parser from a family of parsers for every bound and room, by giving each token list
more room than it has tokens. -/
def settled (family : Nat → Nat → Parser Expression) : Parser Expression :=
  fun tokens => family (tokens.length + 1) (tokens.length + 1) tokens

theorem settled_tracks {family : Nat → Nat → Parser Expression}
    (below : ∀ bound bound', Below bound bound' (family bound) (family bound'))
    {bound room : Nat} (small : room ≤ bound) {tokens : List Placed}
    (fewer : tokens.length < room) :
    Tracks False tokens.length (settled family tokens) (family bound room tokens) :=
  (below _ bound _ room tokens.length (by omega) (Nat.le_refl _) small tokens (Nat.le_refl _)).mono
    (by omega) (Nat.le_refl _)

theorem chain_settled_tracks (wanted : Operator → Bool) {family : Nat → Nat → Parser Expression}
    (below : ∀ bound bound', Below bound bound' (family bound) (family bound'))
    {bound room : Nat} (small : room ≤ bound) (left : Expression) {tokens : List Placed}
    (fewer : tokens.length < room) :
    Tracks False tokens.length
      (chain wanted (family (tokens.length + 1)) (tokens.length + 1) left tokens)
      (chain wanted (family bound) room left tokens) := by
  have below' := (below (tokens.length + 1) bound).mono (Nat.le_refl _) small
  have alike := chain_alike (chains_chained wanted (family bound)) below' fewer left tokens.length
  exact (alike tokens (Nat.le_refl _)).mono (by omega) (Nat.le_refl _)

theorem chains_settled (wanted : Operator → Bool) {family : Nat → Nat → Parser Expression}
    (below : ∀ bound bound', Below bound bound' (family bound) (family bound')) :
    Chains wanted (fun _ => settled family)
      (fun _ => settled fun bound => chained wanted (family bound))
      (fun _ left tokens =>
        chain wanted (family (tokens.length + 1)) (tokens.length + 1) left tokens) where
  starts room tokens := by
    have first := settled_tracks below (Nat.le_refl _) (Nat.lt_succ_self tokens.length)
    refine ((first.bind fun left rest fewer => ?_).of_shallow id).2.symm
    have later := chain_settled_tracks wanted below (Nat.le_refl _) left (Nat.lt_succ_of_le fewer)
    exact later.mono id fewer
  goesOn room left tokens operator position rest found := by
    have shorter := nextOperator?_length found
    have first := settled_tracks below (Nat.le_succ tokens.length)
      (by omega : rest.length < tokens.length)
    simp only [chain, found]
    refine ((first.bind fun right rest' fewer => ?_).of_shallow id).2.symm
    have later := chain_settled_tracks wanted below (Nat.le_succ tokens.length)
      (.binary operator left right position) (by omega : rest'.length < tokens.length)
    exact later.mono id fewer
  stops room left tokens none := by simp only [chain, none]

def limitless : Limitless where
  operand := settled operandWithin
  product := settled fun bound => product (operandWithin bound)
  productFrom left tokens := chain Operator.isMultiplicative (operandWithin (tokens.length + 1))
    (tokens.length + 1) left tokens
  sum := settled fun bound => sum (operandWithin bound)
  sumFrom left tokens := chain Operator.isAdditive (product (operandWithin (tokens.length + 1)))
    (tokens.length + 1) left tokens
  operand_eq tokens := by
    rcases tokens with _ | ⟨first, rest⟩
    · rfl
    · have operands : Alike False rest.length (settled operandWithin)
          (operandWithin (rest.length + 1) (rest.length + 1)) :=
        fun tokens fewer => settled_tracks operandWithin_below (Nat.le_refl _) (by omega)
      have sums : Alike False rest.length (settled fun bound => sum (operandWithin bound))
          (sum (operandWithin (rest.length + 1)) (rest.length + 1)) :=
        fun tokens fewer => settled_tracks sum_below (Nat.le_refl _) (by omega)
      exact ((operandFrom_alike operands sums _ (Nat.le_refl _)).of_shallow id).2.symm
  products := chains_settled _ operandWithin_below
  sums := chains_settled _ product_below

theorem sum_tracks (limitless : Limitless) {bound room : Nat} (small : room ≤ bound)
    (tokens : List Placed) :
    Tracks (room ≤ tokens.length) tokens.length (sum (operandWithin bound) room tokens)
      (limitless.sum tokens) :=
  sum_below_limitless limitless bound room room room tokens.length (Nat.le_refl _) small
    (Nat.le_refl _) tokens (Nat.le_refl _)

theorem limitless_sum_eq (limitless : Limitless) (tokens : List Placed) :
    ¬TooDeep (limitless.sum tokens) ∧
      sum (operandWithin (tokens.length + 1)) (tokens.length + 1) tokens =
        limitless.sum tokens := by
  obtain ⟨shallow, same⟩ :=
    (sum_tracks limitless (Nat.le_refl (tokens.length + 1)) tokens).of_shallow (by omega)
  exact ⟨same ▸ shallow, same⟩

/-- With more room an expression is read as with less, or it was nested too deeply for that. The
parsers without a limit are determined by their recursion, never give up on the depth, and give what
every depth gives unless it is too large. -/
theorem limit_only_adds_tooDeeplyNested :
    (∀ depth depth' tokens, depth ≤ depth' → TooDeep (expressionAt depth' tokens) ∨
      expressionAt depth tokens = expressionAt depth' tokens) ∧
    ∃ limitless : Limitless, (∀ other : Limitless, other.sum = limitless.sum) ∧
      (∀ tokens, ¬TooDeep (limitless.sum tokens)) ∧
      ∀ depth tokens, TooDeep (expressionAt depth tokens) ∨
        expressionAt depth tokens = limitless.sum tokens := by
  refine ⟨?_, limitless, ?_, fun tokens => (limitless_sum_eq limitless tokens).1, ?_⟩
  · intro depth depth' tokens deeper
    have less : maxDepth - depth' ≤ maxDepth - depth := Nat.sub_le_sub_left deeper _
    have tracks := sum_below (maxDepth - depth') (maxDepth - depth) _ _ tokens.length less
      (Nat.le_refl _) (Nat.le_refl _) tokens (Nat.le_refl _)
    exact tracks.tooDeep_or_eq.imp id Eq.symm
  · intro other
    funext tokens
    exact (limitless_sum_eq other tokens).2.symm.trans (limitless_sum_eq limitless tokens).2
  · exact fun depth tokens => (sum_tracks limitless (Nat.le_refl _) tokens).tooDeep_or_eq

/-- Two signs and a number take three levels. With three levels left they are read as from the
start, and with two they are not read. -/
theorem limit_only_adds_tooDeeplyNested_signs :
    TooDeep (expressionAt 254 (Grammar.signRun 2)) ∧
      expressionAt 0 (Grammar.signRun 2) = .ok (Grammar.signTree 2, []) := by
  have fits : expressionAt 253 (Grammar.signRun 2) = .ok (Grammar.signTree 2, []) := rfl
  have deep : TooDeep (expressionAt 254 (Grammar.signRun 2)) := ⟨0, rfl⟩
  have shallow : ¬TooDeep (expressionAt 253 (Grammar.signRun 2)) := by
    rw [fits]
    exact nofun
  refine ⟨deep, ?_⟩
  rw [← fits]
  exact (limit_only_adds_tooDeeplyNested.1 0 253 _ (by decide)).resolve_left shallow

end DiagramScript.Parser
