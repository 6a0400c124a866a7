import DiagramScript.Diagram.Coordinate
import DiagramScript.Expression.Error

/-! What can be wrong with a line of a script, and how it is put into words. -/
namespace DiagramScript

def colorReference : String := "http://www.w3schools.com/html/html_colornames.asp"

inductive ScriptError where
  /-- The name is bound already; the value is the one that was to be bound. -/
  | alreadyBound (name : Text) (value : Coordinate)
  | notBound (name : Text)
  /-- A coordinate opens a bracket and does not end with the closing one. -/
  | unclosedBracket (coordinate : Text)
  | componentCount (inner : Text) (found : Nat)
  | argumentCount (command : Text) (expected found : Nat)
  | unknownCommand (command : Text)
  /-- There is no such color; the text is in lower case. -/
  | invalidColor (color : Text)
  | invalidExpression (expression : Text) (cause : ExpressionError)
deriving DecidableEq

namespace ScriptError

def message : ScriptError → String
  | .alreadyBound name value =>
    s!"Overwriting point {String.ofList name} with {String.ofList value.display}"
  | .notBound name => s!"Referring to nonexistent point {String.ofList name}"
  | .unclosedBracket coordinate =>
    s!"Coordinate {String.ofList coordinate} is missing a close bracket \"]\""
  | .componentCount inner found =>
    if found < 2 then s!"Coordinate {String.ofList inner} is missing a comma"
    else s!"Coordinate {String.ofList inner} has too many commas"
  | .argumentCount command expected found =>
    s!"The \"{String.ofList command}\" command requires {expected} value(s). " ++
      s!"You have {found} value(s).\nDid you remember to add a comma?"
  | .unknownCommand command => s!"Unknown command found: {String.ofList command}"
  | .invalidColor color =>
    s!"\"{String.ofList color}\" is not a valid color.\n" ++
      s!"See {colorReference} for a list of all valid colors, or use hex colors."
  | .invalidExpression expression cause =>
    s!"Invalid Expression: {String.ofList expression} ({cause.message})"

def agrees : ScriptError → ScriptError → Bool
  | .alreadyBound name value, .alreadyBound name' value' => name == name' && value.agrees value'
  | error, error' => error == error'

end ScriptError

structure LineError where
  /-- The number of the line, counted from one. -/
  line : Nat
  /-- The line as it stands in the source. -/
  source : Text
  error : ScriptError
deriving DecidableEq

namespace LineError

def message (e : LineError) : String :=
  s!"Error at line {e.line}: \"{String.ofList e.source}\"\n{e.error.message}"

def agrees (e f : LineError) : Bool :=
  e.line == f.line && e.source == f.source && e.error.agrees f.error

end LineError
end DiagramScript
