import DiagramScript.Expression.Evaluation
import DiagramScript.Proofs.Expression.Tiling
import DiagramScript.Proofs.Grammar.Soundness
import Mathlib.Data.List.Forall2

/-! The places of nodes. Each node of a tree comes from a token of its own, and the nodes follow the
text, so the position of a node is where its number, its name or its spelling stands. An evaluation
that fails says the position of such a node. Main statement: `Expression.positions_faithful`. -/
namespace DiagramScript

/-- At the byte offset the piece starts, and no longer lexeme does. -/
def Text.Reads (text piece : Text) (position : Nat) : Prop :=
  ∃ before meaning after, text = before ++ (piece ++ after) ∧ byteLength before = position ∧
    Lexeme.Longest (piece ++ after) ⟨meaning, piece, after⟩

def Sign.symbol : Sign → Char
  | .minus => '-'
  | .plus => '+'

def Operator.spellings : Operator → List Text
  | .pow => [['^'], ['*', '*']]
  | operator => [[operator.symbol]]

namespace Expression

def position : Expression → Nat
  | .literal _ position => position
  | .signed _ _ position => position
  | .binary _ _ _ position => position
  | .call _ _ position => position

mutual

def nodes : Expression → List Expression
  | .literal value position => [.literal value position]
  | .signed sign operand position => .signed sign operand position :: operand.nodes
  | .binary operator left right position =>
    left.nodes ++ .binary operator left right position :: right.nodes
  | .call name arguments position => .call name arguments position :: nodesAll arguments

def nodesAll : List Expression → List Expression
  | [] => []
  | first :: others => first.nodes ++ nodesAll others

end

theorem nodesAll_eq (trees : List Expression) : nodesAll trees = trees.flatMap nodes := by
  induction trees with
  | nil => rfl
  | cons first others ih => rw [nodesAll, ih, List.flatMap_cons]

def StandsIn (text : Text) : Expression → Prop
  | .literal value position =>
    (∃ piece d, Decimal.Numeral piece d ∧ text.Reads piece position ∧
      (value = Complex.ofReal (d.toBinary64 false) ∨ value = ⟨.zero false, d.toBinary64 false⟩)) ∨
    (∃ name ∈ Parser.imaginaryUnits, text.Reads name position ∧ value = Complex.i) ∨
    text.Reads Parser.piName position ∧ value = Complex.ofReal Binary64.pi
  | .signed sign _ position => text.Reads [sign.symbol] position
  | .binary operator _ _ position => ∃ spelling ∈ operator.spellings, text.Reads spelling position
  | .call name _ position => text.Reads name position

/-- The parts of a node stand on the sides of it on which they belong. -/
def InOrder : Expression → Prop
  | .literal _ _ => True
  | .signed _ operand position => ∀ inner ∈ operand.nodes, position < inner.position
  | .binary _ left right position =>
    (∀ inner ∈ left.nodes, inner.position < position) ∧
      ∀ inner ∈ right.nodes, position < inner.position
  | .call _ arguments position =>
    (∀ argument ∈ arguments, ∀ inner ∈ argument.nodes, position < inner.position) ∧
      arguments.Pairwise fun argument next =>
        ∀ inner ∈ argument.nodes, ∀ inner' ∈ next.nodes, inner.position < inner'.position

def Ascending (nodes : List Expression) : Prop :=
  nodes.Pairwise fun node next => node.position < next.position

theorem inOrder_of_ascending (tree : Expression) (ascending : Ascending tree.nodes) :
    tree.InOrder := by
  cases tree with
  | literal value position => trivial
  | signed sign operand position => exact (List.pairwise_cons.mp ascending).1
  | binary operator left right position =>
    obtain ⟨_, behind, across⟩ := List.pairwise_append.mp ascending
    exact ⟨fun inner member => across inner member _ List.mem_cons_self,
      (List.pairwise_cons.mp behind).1⟩
  | call name arguments position =>
    rw [Ascending, nodes, nodesAll_eq] at ascending
    obtain ⟨behind, inside⟩ := List.pairwise_cons.mp ascending
    refine ⟨fun argument given inner member => ?_, (List.pairwise_flatMap.mp inside).2⟩
    exact behind inner (List.mem_flatMap.mpr ⟨argument, given, member⟩)

/- The nodes of a part are among the nodes of the whole. -/
mutual

theorem nodes_sublist {node : Expression} :
    ∀ tree : Expression, node ∈ tree.nodes → node.nodes.Sublist tree.nodes
  | .literal _ _, member => by
    obtain rfl := List.mem_singleton.mp member
    exact .refl _
  | .signed _ operand _, member => by
    obtain rfl | inside := List.mem_cons.mp member
    · exact .refl _
    · exact (nodes_sublist operand inside).cons _
  | .binary _ left right _, member => by
    obtain inside | here := List.mem_append.mp member
    · exact (nodes_sublist left inside).trans (List.sublist_append_left _ _)
    · obtain rfl | inside := List.mem_cons.mp here
      · exact .refl _
      · exact ((nodes_sublist right inside).cons _).trans (List.sublist_append_right _ _)
  | .call _ arguments _, member => by
    obtain rfl | inside := List.mem_cons.mp member
    · exact .refl _
    · exact (nodesAll_sublist arguments inside).cons _

theorem nodesAll_sublist {node : Expression} :
    ∀ trees : List Expression, node ∈ nodesAll trees → node.nodes.Sublist (nodesAll trees)
  | first :: others, member => by
    obtain inside | inside := List.mem_append.mp member
    · exact (nodes_sublist first inside).trans (List.sublist_append_left _ _)
    · exact (nodesAll_sublist others inside).trans (List.sublist_append_right _ _)

end

/-- The token that makes a node, which has its position from there. -/
inductive ComesFrom : Expression → Placed → Prop
  | number {value position} :
      ComesFrom (.literal (Complex.ofReal value) position) ⟨.number value, position⟩
  | imaginary {value position} :
      ComesFrom (.literal ⟨.zero false, value⟩ position) ⟨.number value, position⟩
  | unit {name position} : name ∈ Parser.imaginaryUnits →
      ComesFrom (.literal Complex.i position) ⟨.name name, position⟩
  | pi {position} :
      ComesFrom (.literal (Complex.ofReal Binary64.pi) position) ⟨.name Parser.piName, position⟩
  | signed {token sign operand position} : token.sign? = some sign →
      ComesFrom (.signed sign operand position) ⟨token, position⟩
  | binary {token operator left right position} : token.operator? = some operator →
      ComesFrom (.binary operator left right position) ⟨token, position⟩
  | call {name arguments position} :
      ComesFrom (.call name arguments position) ⟨.name name, position⟩

theorem ComesFrom.same_position {node : Expression} {placed : Placed}
    (comes : ComesFrom node placed) : node.position = placed.position := by
  cases comes <;> rfl

def AllComeFrom (nodes : List Expression) (tokens : List Placed) : Prop :=
  List.SublistForall₂ ComesFrom nodes tokens

namespace AllComeFrom

variable {nodes nodes' : List Expression} {tokens tokens' : List Placed}

theorem behind (all : AllComeFrom nodes tokens) (before : List Placed) :
    AllComeFrom nodes (before ++ tokens) := by
  induction before with
  | nil => exact all
  | cons first before ih => exact .cons_right ih

theorem append (all : AllComeFrom nodes tokens) (all' : AllComeFrom nodes' tokens') :
    AllComeFrom (nodes ++ nodes') (tokens ++ tokens') := by
  induction all with
  | nil => exact all'.behind _
  | cons comes _ ih => exact .cons comes ih
  | cons_right _ ih => exact .cons_right ih

theorem before (all : AllComeFrom nodes tokens) (after : List Placed) :
    AllComeFrom nodes (tokens ++ after) := by
  rw [← List.append_nil nodes]
  exact all.append .nil

theorem exists_mem {node : Expression} (all : AllComeFrom nodes tokens) (member : node ∈ nodes) :
    ∃ placed ∈ tokens, ComesFrom node placed := by
  induction all with
  | nil => cases member
  | cons comes _ ih =>
    obtain rfl | later := List.mem_cons.mp member
    · exact ⟨_, List.mem_cons_self, comes⟩
    · obtain ⟨placed, known, comes'⟩ := ih later
      exact ⟨placed, List.mem_cons_of_mem _ known, comes'⟩
  | cons_right _ ih =>
    obtain ⟨placed, known, comes⟩ := ih member
    exact ⟨placed, List.mem_cons_of_mem _ known, comes⟩

theorem ascending (all : AllComeFrom nodes tokens)
    (order : tokens.Pairwise fun placed next => placed.position < next.position) :
    Ascending nodes := by
  induction all with
  | nil => exact .nil
  | cons comes others ih =>
    obtain ⟨first, order⟩ := List.pairwise_cons.mp order
    refine .cons (fun node member => ?_) (ih order)
    obtain ⟨placed, known, comes'⟩ := AllComeFrom.exists_mem others member
    rw [comes.same_position, comes'.same_position]
    exact first placed known
  | cons_right _ ih => exact ih (List.pairwise_cons.mp order).2

end AllComeFrom

end Expression

namespace Grammar

open Expression (AllComeFrom)

/- A rule that makes a node takes it from a token between those of its parts, and all other tokens
leave no node. -/
mutual

theorem sum_nodes {allowed : Nat → Prop} {depth operators : Nat} {tokens : List Placed}
    {tree : Expression} : Sum allowed depth operators tokens tree → AllComeFrom tree.nodes tokens
  | .product inner => product_nodes inner
  | .operator left stands _ right =>
    (sum_nodes left).append (.cons (.binary stands) (product_nodes right))

theorem product_nodes {allowed : Nat → Prop} {depth operators : Nat} {tokens : List Placed}
    {tree : Expression} :
    Product allowed depth operators tokens tree → AllComeFrom tree.nodes tokens
  | .operand inner => operand_nodes inner
  | .operator left stands _ right =>
    (product_nodes left).append (.cons (.binary stands) (operand_nodes right))

theorem operand_nodes {allowed : Nat → Prop} {depth : Nat} {tokens : List Placed}
    {tree : Expression} : Operand allowed depth tokens tree → AllComeFrom tree.nodes tokens
  | .signed _ stands inner => by
    rw [Expression.nodes]
    exact .cons (.signed stands) (operand_nodes inner)
  | .power _ inner => power_nodes inner

theorem power_nodes {allowed : Nat → Prop} {depth : Nat} {tokens : List Placed}
    {tree : Expression} : Power allowed depth tokens tree → AllComeFrom tree.nodes tokens
  | .primary inner => primary_nodes inner
  | .raised base stands exponent =>
    (primary_nodes base).append (.cons (.binary stands) (operand_nodes exponent))

theorem primary_nodes {allowed : Nat → Prop} {depth : Nat} {tokens : List Placed}
    {tree : Expression} : Primary allowed depth tokens tree → AllComeFrom tree.nodes tokens
  | .number => .cons .number .nil
  | .imaginary _ => .cons .imaginary .nil
  | .unit unit => .cons (.unit unit) .nil
  | .pi => .cons .pi .nil
  | .group inner => .cons_right ((sum_nodes inner).before _)
  | .emptyCall => .cons .call .nil
  | .call given => .cons .call (.cons_right ((arguments_nodes given).before _))

theorem arguments_nodes {allowed : Nat → Prop} {depth : Nat} {tokens : List Placed}
    {trees : List Expression} : Arguments allowed depth tokens trees →
      AllComeFrom (Expression.nodesAll trees) tokens
  | .last only => by
    rw [Expression.nodesAll, Expression.nodesAll, List.append_nil]
    exact sum_nodes only
  | .more first others => (sum_nodes first).append (.cons_right (arguments_nodes others))

end

end Grammar

namespace Lexeme

variable {piece : Text} {token : Token}

theorem spelling_of_operator {operator : Operator} (belongs : Belongs piece (some token))
    (stands : token.operator? = some operator) : piece ∈ operator.spellings := by
  cases belongs with
  | number => cases stands
  | name => cases stands
  | symbol member =>
    simp only [symbols, List.mem_cons, Prod.mk.injEq, List.not_mem_nil, or_false] at member
    rcases member with ⟨rfl, rfl⟩ | ⟨rfl, rfl⟩ | ⟨rfl, rfl⟩ | ⟨rfl, rfl⟩ | ⟨rfl, rfl⟩ |
      ⟨rfl, rfl⟩ | ⟨rfl, rfl⟩ | ⟨rfl, rfl⟩ | ⟨rfl, rfl⟩ <;>
      cases stands <;> simp [Operator.spellings, Operator.symbol]

theorem spelling_of_sign {sign : Sign} (belongs : Belongs piece (some token))
    (stands : token.sign? = some sign) : piece = [sign.symbol] := by
  -- A token that is a sign is an operator elsewhere, with the same spelling.
  cases token with
  | minus =>
    cases stands
    exact List.mem_singleton.mp (spelling_of_operator belongs rfl)
  | plus =>
    cases stands
    exact List.mem_singleton.mp (spelling_of_operator belongs rfl)
  | _ => cases stands

theorem spelling_of_name {name : Text} (belongs : Belongs piece (some (.name name))) :
    piece = name ∧ ∀ c ∈ name, continuesName c = true := by
  cases belongs with
  | name starts continues =>
    exact ⟨rfl, List.forall_mem_cons.mpr ⟨continuesName_of_startsName starts, continues⟩⟩
  | symbol member => simp [symbols] at member

theorem numeral_of_number {value : Binary64} (belongs : Belongs piece (some (.number value))) :
    ∃ d, Decimal.Numeral piece d ∧ value = d.toBinary64 false := by
  cases belongs with
  | number numeral => exact ⟨_, numeral, rfl⟩
  | symbol member => simp [symbols] at member

end Lexeme

theorem reads_of_tokenize {text : Text} {tokens : List Placed} {placed : Placed}
    (tokenized : tokenize text = .ok tokens) (member : placed ∈ tokens) :
    ∃ piece, Lexeme.Belongs piece (some placed.token) ∧ text.Reads piece placed.position := by
  obtain ⟨before, rest, lexeme, rfl, place, scanned, value⟩ :=
    tokenizeFrom_places tokenized member
  have longest := Lexeme.scan?_eq_some_iff.mp scanned
  have splits : lexeme.text ++ lexeme.rest = rest := longest.splits
  rw [Nat.zero_add] at place
  refine ⟨lexeme.text, value ▸ longest.belongs, before, lexeme.value, lexeme.rest, ?_, place.symm,
    ?_⟩
  · rw [splits]
  · rwa [splits]

namespace Expression

theorem standsIn_of_comesFrom {text : Text} {tokens : List Placed} {node : Expression}
    {placed : Placed} (tokenized : tokenize text = .ok tokens) (member : placed ∈ tokens)
    (comes : ComesFrom node placed) : node.StandsIn text := by
  obtain ⟨piece, belongs, reads⟩ := reads_of_tokenize tokenized member
  cases comes with
  | number =>
    obtain ⟨d, numeral, rfl⟩ := Lexeme.numeral_of_number belongs
    exact .inl ⟨piece, d, numeral, reads, .inl rfl⟩
  | imaginary =>
    obtain ⟨d, numeral, rfl⟩ := Lexeme.numeral_of_number belongs
    exact .inl ⟨piece, d, numeral, reads, .inr rfl⟩
  | unit unit =>
    obtain ⟨rfl, _⟩ := Lexeme.spelling_of_name belongs
    exact .inr (.inl ⟨piece, unit, reads, rfl⟩)
  | pi =>
    obtain ⟨rfl, _⟩ := Lexeme.spelling_of_name belongs
    exact .inr (.inr ⟨reads, rfl⟩)
  | signed stands =>
    obtain rfl := Lexeme.spelling_of_sign belongs stands
    exact reads
  | binary stands => exact ⟨piece, Lexeme.spelling_of_operator belongs stands, reads⟩
  | call =>
    obtain ⟨rfl, _⟩ := Lexeme.spelling_of_name belongs
    exact reads

/-- The nodes that an error of an evaluation is about. -/
inductive Blames : ExpressionError → Expression → Prop
  | quotient {left right position} :
      Blames (.divisionByZero position) (.binary .div left right position)
  | power {left right position} :
      Blames (.divisionByZero position) (.binary .pow left right position)
  | overflow {left right position} :
      Blames (.overflow position) (.binary .pow left right position)
  | unknown {name arguments position} :
      Blames (.unknownFunction name position) (.call name arguments position)
  | count {name arity given arguments position} :
      Blames (.argumentCount name arity given) (.call name arguments position)
  | root {x name arguments position} :
      Blames (.noSquareRoot x) (.call name arguments position)

theorem blames_powerError (base : Value) (left right : Expression) (position : Nat) :
    Blames (powerError base position) (.binary .pow left right position) := by
  unfold powerError
  split
  · exact .power
  · exact .overflow

theorem blames_of_apply {operator : Operator} {x y : Value} {position : Nat}
    {cause : ExpressionError} (failed : operator.apply x y position = .error cause)
    (left right : Expression) : Blames cause (.binary operator left right position) := by
  cases operator with
  | div =>
    simp only [Operator.apply] at failed
    split at failed <;> cases failed
    exact .quotient
  | pow =>
    suffices cause = powerError x position from this ▸ blames_powerError x left right position
    simp only [Operator.apply, evalPower] at failed
    repeat' split at failed
    all_goals cases failed
    all_goals rfl
  | _ => cases failed

theorem blames_of_call {name : Text} {values : List Value} {position : Nat}
    {cause : ExpressionError} (failed : Builtin.call name values position = .error cause)
    (arguments : List Expression) : Blames cause (.call name arguments position) := by
  simp only [Builtin.call] at failed
  split at failed
  · cases failed
    exact .unknown
  · rename_i builtin found
    have same : builtin.name = name := by simpa using List.find?_some found
    have known : builtin = Builtin.sqrt := by
      simpa [Builtin.all] using List.mem_of_find?_eq_some found
    subst known
    split at failed
    · simp only [Builtin.sqrt] at failed
      split at failed
      · split at failed <;> cases failed
        exact .root
      · cases failed
        exact same ▸ .count
    · cases failed
      exact .count

/- An evaluation fails at a node of the tree. -/
mutual

theorem eval_blames {cause : ExpressionError} :
    ∀ tree : Expression, tree.eval = .error cause → ∃ node ∈ tree.nodes, Blames cause node
  | .literal _ _, failed => by cases failed
  | .signed _ operand _, failed => by
    simp only [eval, bind_eq_error_iff] at failed
    obtain inside | ⟨_, _, impossible⟩ := failed
    · obtain ⟨node, member, blames⟩ := eval_blames operand inside
      exact ⟨node, List.mem_cons_of_mem _ member, blames⟩
    · cases impossible
  | .binary _ left right _, failed => by
    simp only [eval, bind_eq_error_iff] at failed
    obtain inside | ⟨x, _, inside | ⟨y, _, applied⟩⟩ := failed
    · obtain ⟨node, member, blames⟩ := eval_blames left inside
      exact ⟨node, List.mem_append_left _ member, blames⟩
    · obtain ⟨node, member, blames⟩ := eval_blames right inside
      exact ⟨node, List.mem_append_right _ (List.mem_cons_of_mem _ member), blames⟩
    · exact ⟨_, List.mem_append_right _ List.mem_cons_self, blames_of_apply applied left right⟩
  | .call _ arguments _, failed => by
    simp only [eval, bind_eq_error_iff] at failed
    obtain inside | ⟨values, _, called⟩ := failed
    · obtain ⟨node, member, blames⟩ := evalAll_blames arguments inside
      exact ⟨node, List.mem_cons_of_mem _ member, blames⟩
    · exact ⟨_, List.mem_cons_self, blames_of_call called arguments⟩

theorem evalAll_blames {cause : ExpressionError} :
    ∀ trees : List Expression, evalAll trees = .error cause →
      ∃ node ∈ nodesAll trees, Blames cause node
  | [], failed => by cases failed
  | first :: others, failed => by
    simp only [evalAll, bind_eq_error_iff] at failed
    obtain inside | ⟨_, _, inside | ⟨_, _, impossible⟩⟩ := failed
    · obtain ⟨node, member, blames⟩ := eval_blames first inside
      exact ⟨node, List.mem_append_left _ member, blames⟩
    · obtain ⟨node, member, blames⟩ := evalAll_blames others inside
      exact ⟨node, List.mem_append_right _ member, blames⟩
    · cases impossible

end

/-- Every node of a tree has the position of what it is made from, and its parts stand around it as
in the text. So an evaluation that divides by zero or overflows says where the operator for that
stands, and one that misses a function says where its name does. -/
theorem positions_faithful {text : Text} {tokens : List Placed} {tree : Expression}
    (tokenized : tokenize text = .ok tokens) (parsed : ofTokens tokens = .ok tree) :
    (∀ node ∈ tree.nodes, node.StandsIn text ∧ node.InOrder) ∧
    (∀ position, tree.eval = .error (.divisionByZero position) →
      ∃ piece, (piece = ['/'] ∨ piece = ['^'] ∨ piece = ['*', '*']) ∧ text.Reads piece position) ∧
    (∀ position, tree.eval = .error (.overflow position) →
      ∃ piece, (piece = ['^'] ∨ piece = ['*', '*']) ∧ text.Reads piece position) ∧
    ∀ name position, tree.eval = .error (.unknownFunction name position) →
      text.Reads name position := by
  obtain ⟨operators, derived⟩ := Grammar.ofTokens_sound parsed
  have all := Grammar.sum_nodes derived
  have ascending := all.ascending (Tiled.of_tokenizeFrom tokenized).positions.2
  have stands : ∀ node ∈ tree.nodes, node.StandsIn text := by
    intro node member
    obtain ⟨placed, known, comes⟩ := all.exists_mem member
    exact standsIn_of_comesFrom tokenized known comes
  refine ⟨fun node member => ⟨stands node member, ?_⟩, ?_, ?_, ?_⟩
  · exact inOrder_of_ascending node (ascending.sublist (nodes_sublist tree member))
  · intro position failed
    obtain ⟨node, member, blames⟩ := eval_blames tree failed
    have reads := stands node member
    cases blames with
    | quotient =>
      obtain ⟨spelling, slash, reads⟩ := reads
      exact ⟨spelling, .inl (List.mem_singleton.mp slash), reads⟩
    | power =>
      obtain ⟨spelling, power, reads⟩ := reads
      exact ⟨spelling, .inr (by simpa [Operator.spellings] using power), reads⟩
  · intro position failed
    obtain ⟨node, member, blames⟩ := eval_blames tree failed
    obtain ⟨spelling, power, reads⟩ : ∃ spelling ∈ Operator.spellings .pow,
        text.Reads spelling position := by
      cases blames
      exact stands _ member
    exact ⟨spelling, by simpa [Operator.spellings] using power, reads⟩
  · intro name position failed
    obtain ⟨node, member, blames⟩ := eval_blames tree failed
    cases blames
    exact stands _ member

/-- A quotient with a sign and a group in it, which leaves no node, and a call of a function that
is not known. -/
theorem positions_faithful_group :
    (∃ tree, read "-(i**2)/0".toList = .ok tree ∧ tree.nodes.map position = [0, 2, 3, 5, 7, 8] ∧
      (∀ node ∈ tree.nodes, node.StandsIn "-(i**2)/0".toList ∧ node.InOrder) ∧
      ∃ piece, (piece = ['/'] ∨ piece = ['^'] ∨ piece = ['*', '*']) ∧
        Text.Reads "-(i**2)/0".toList piece 7) ∧
    Text.Reads "2*f(1)".toList "f".toList 2 := by
  have tokenized : tokenize "-(i**2)/0".toList = .ok [⟨.minus, 0⟩, ⟨.leftParen, 1⟩,
      ⟨.name "i".toList, 2⟩, ⟨.doubleStar, 3⟩, ⟨.number (.one + .one), 5⟩, ⟨.rightParen, 6⟩,
      ⟨.slash, 7⟩, ⟨.number (.zero false), 8⟩] := by decide +kernel
  have unknown : tokenize "2*f(1)".toList = .ok [⟨.number (.one + .one), 0⟩, ⟨.star, 1⟩,
      ⟨.name "f".toList, 2⟩, ⟨.leftParen, 3⟩, ⟨.number .one, 4⟩, ⟨.rightParen, 5⟩] := by
    decide +kernel
  obtain ⟨faithful, divided, _⟩ := positions_faithful tokenized rfl
  refine ⟨⟨_, ?_, rfl, faithful, divided 7 (by decide +kernel)⟩,
    (positions_faithful unknown rfl).2.2.2 _ _ rfl⟩
  rw [read, tokenized]
  rfl

end Expression
end DiagramScript
