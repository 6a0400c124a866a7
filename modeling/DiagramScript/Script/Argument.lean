import DiagramScript.Expression.Evaluation
import DiagramScript.Script.Bindings
import DiagramScript.Text.Blank

/-! Arguments of commands. A number is a numeral or a word for one; a coordinate is an expression,
two expressions in brackets, or the name of a binding after an at sign; a label's text may be
quoted and may hold escapes. -/
namespace DiagramScript

namespace Argument

/-- The value of an expression; an error names the expression without the white space around. -/
def value (text : Text) : Except ScriptError Value :=
  match Expression.value text with
  | .ok value => .ok value
  | .error cause => .error (.invalidExpression text.trim cause)

def readNumber (text : Text) : Except ExpressionError Binary64 :=
  match Binary64.read? text.trim with
  | some number => .ok number
  | none => .error (.notANumber text.trim)

def number (text : Text) : Except ScriptError Binary64 :=
  match readNumber text with
  | .ok number => .ok number
  | .error cause => .error (.invalidExpression text.trim cause)

/-- Depth of nesting after a character. A closing bracket without its opening one has no effect. -/
def depthAfter (depth : Nat) (c : Char) : Nat :=
  if c = '(' ∨ c = '[' then depth + 1
  else if c = ')' ∨ c = ']' then depth - 1
  else depth

def componentsFrom (depth : Nat) : Text → List Text
  | [] => [[]]
  | c :: rest =>
    if c = ',' ∧ depth = 0 then [] :: componentsFrom 0 rest
    else
      match componentsFrom (depthAfter depth c) rest with
      | [] => [[c]]
      | first :: others => (c :: first) :: others

def components (inner : Text) : List Text :=
  componentsFrom 0 inner

def pair (inner : Text) : Except ScriptError Coordinate :=
  match components inner with
  | [x, y] => do
    let x ← value x
    let y ← value y
    .ok ⟨x.re, y.re⟩
  | parts => .error (.componentCount inner parts.length)

def coordinateTrimmed (bindings : Bindings) (text : Text) : Except ScriptError Coordinate :=
  match text with
  | '[' :: rest =>
    match ([']'] : Text).isSuffixOf? rest with
    | some inner => pair inner
    | none => .error (.unclosedBracket text)
  | '@' :: name => bindings.fetch (Text.trim name)
  | text => (value text).map Coordinate.ofComplex

def coordinate (bindings : Bindings) (text : Text) : Except ScriptError Coordinate :=
  coordinateTrimmed bindings text.trim

def unquote (text : Text) : Text :=
  match text with
  | '"' :: rest => ((['"'] : Text).isSuffixOf? rest).getD text
  | text => text

/-- The text with line feeds, tabs and percent signs for their escapes. All other backslashes
stand for themselves. -/
def decodeEscapes : Text → Text
  | '\\' :: 'n' :: rest => '\n' :: decodeEscapes rest
  | '\\' :: 't' :: rest => '\t' :: decodeEscapes rest
  | '\\' :: '%' :: rest => '%' :: decodeEscapes rest
  | c :: rest => c :: decodeEscapes rest
  | [] => []

def label (text : Text) : Text :=
  decodeEscapes (unquote text.trim)

end Argument
end DiagramScript
