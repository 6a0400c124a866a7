import DiagramScript.Expression.Error
import DiagramScript.Expression.Tree
import DiagramScript.Number.Elementary

/-! Trees from tokens, by recursive descent.

    expression := product { ("+" | "-") product }
    product    := operand { ("*" | "/") operand }
    operand    := ("-" | "+") operand | power
    power      := primary [ ("^" | "**") operand ]
    primary    := number [ unit ] | unit | "pi" | name "(" [ list ] ")" | "(" expression ")"
    list       := expression { "," expression }
    unit       := "i" | "j"

Nesting is limited by the room: the number of levels that may still be entered. Every operand takes
one level for all that is inside it, and every operator of a chain takes one from its right operand
and from the rest of the chain. The recursion goes by the room. -/
namespace DiagramScript

/-- Reads something from the front of the tokens, and leaves the others over. -/
abbrev Parser (α : Type) := List Placed → Except ExpressionError (α × List Placed)

namespace Parser

def maxDepth : Nat := 256

def imaginaryUnits : List Text := ["i".toList, "j".toList]

def piName : Text := "pi".toList

def startOf : List Placed → Nat
  | [] => 0
  | first :: _ => first.position

/-- The operator at the front, if it is one of those asked for, its position, and what follows. -/
def nextOperator? (wanted : Operator → Bool) : List Placed → Option (Operator × Nat × List Placed)
  | [] => none
  | first :: rest =>
    match first.token.operator? with
    | some operator => if wanted operator then some (operator, first.position, rest) else none
    | none => none

def chain (wanted : Operator → Bool) (operand : Nat → Parser Expression) :
    (room : Nat) → (left : Expression) → Parser Expression
  | 0, left, tokens =>
    match nextOperator? wanted tokens with
    | some (_, position, _) => .error (.tooDeeplyNested position)
    | none => .ok (left, tokens)
  | room + 1, left, tokens =>
    match nextOperator? wanted tokens with
    | some (operator, position, rest) => do
      let (right, rest) ← operand room rest
      chain wanted operand room (.binary operator left right position) rest
    | none => .ok (left, tokens)

def chained (wanted : Operator → Bool) (operand : Nat → Parser Expression) (room : Nat) :
    Parser Expression :=
  fun tokens => do
    let (left, rest) ← operand room tokens
    chain wanted operand room left rest

def product (operand : Nat → Parser Expression) (room : Nat) : Parser Expression :=
  chained Operator.isMultiplicative operand room

def sum (operand : Nat → Parser Expression) (room : Nat) : Parser Expression :=
  chained Operator.isAdditive (product operand) room

/-- The rest of a list of arguments, of which at least one is to come, with its closing
parenthesis. Every argument takes a token, so one more round than there are tokens is enough. -/
def argumentsFrom (item : Parser Expression) : (rounds : Nat) → Parser (List Expression)
  | 0, _ => .error .unexpectedEnd
  | rounds + 1, tokens => do
    let (argument, rest) ← item tokens
    match rest with
    | [] => .error .unexpectedEnd
    | next :: rest =>
      match next.token with
      | .comma => do
        let (others, rest) ← argumentsFrom item rounds rest
        .ok (argument :: others, rest)
      | .rightParen => .ok ([argument], rest)
      | token => .error (.unexpectedToken token next.position)

def arguments (item : Parser Expression) : Parser (List Expression)
  | ⟨.rightParen, _⟩ :: rest => .ok ([], rest)
  | tokens => argumentsFrom item (tokens.length + 1) tokens

/-- A number, which a name of the imaginary unit directly after it makes imaginary. No other name
may follow. -/
def literal (value : Binary64) (position : Nat) : Parser Expression
  | ⟨.name name, namePosition⟩ :: rest =>
    if name ∈ imaginaryUnits then .ok (.literal ⟨.zero false, value⟩ position, rest)
    else .error (.unexpectedToken (.name name) namePosition)
  | tokens => .ok (.literal (Complex.ofReal value) position, tokens)

def group (inner : Parser Expression) (position : Nat) : Parser Expression := fun tokens => do
  let (contents, rest) ← inner tokens
  match rest with
  | ⟨.rightParen, _⟩ :: rest => .ok (contents, rest)
  | _ => .error (.unclosedParen position)

def named (inner : Parser Expression) (name : Text) (position : Nat) : Parser Expression
  | ⟨.leftParen, _⟩ :: rest => do
    let (given, rest) ← arguments inner rest
    .ok (.call name given position, rest)
  | tokens =>
    if name ∈ imaginaryUnits then .ok (.literal Complex.i position, tokens)
    else if name = piName then .ok (.literal (Complex.ofReal Binary64.pi) position, tokens)
    else .error (.unknownName name position)

def primary (inner : Parser Expression) : Parser Expression
  | [] => .error .unexpectedEnd
  | first :: rest =>
    match first.token with
    | .number value => literal value first.position rest
    | .leftParen => group inner first.position rest
    | .name name => named inner name first.position rest
    | token => .error (.unexpectedToken token first.position)

def power (base exponent : Parser Expression) : Parser Expression := fun tokens => do
  let (left, rest) ← base tokens
  match nextOperator? (· == .pow) rest with
  | some (operator, position, rest) =>
    let (right, rest) ← exponent rest
    .ok (.binary operator left right position, rest)
  | none => .ok (left, rest)

def operandInside (operand : Nat → Parser Expression) (room : Nat) : Parser Expression
  | ⟨.minus, position⟩ :: rest => do
    let (inner, rest) ← operand room rest
    .ok (.signed .minus inner position, rest)
  | ⟨.plus, position⟩ :: rest => do
    let (inner, rest) ← operand room rest
    .ok (.signed .plus inner position, rest)
  | tokens => power (primary (sum operand room)) (operand room) tokens

/-- Operands for every room up to a bound; beyond it and at room zero nothing can be entered. -/
def operandWithin : (bound room : Nat) → Parser Expression
  | bound + 1, room + 1 => operandInside (operandWithin bound) room
  | _, _ => fun tokens => .error (.tooDeeplyNested (startOf tokens))

def expressionAt (depth : Nat) : Parser Expression :=
  let room := maxDepth - depth
  sum (operandWithin room) room

end Parser

def Expression.ofTokens (tokens : List Placed) : Except ExpressionError Expression := do
  let (tree, rest) ← Parser.expressionAt 0 tokens
  match rest with
  | [] => .ok tree
  | next :: _ => .error (.trailingToken next.token next.position)

end DiagramScript
