import DiagramScript.Script.Command
import DiagramScript.Text.Lines

/-! Diagrams from the sources of scripts, line by line. The first line that is refused ends the
run. -/
namespace DiagramScript.Diagram

def perform (statement : Statement) (d : Diagram) : Except ScriptError Diagram :=
  match Command.ofName? statement.command with
  | some command => command.apply statement.arguments statement.color? d
  | none => .error (.unknownCommand statement.command)

def content (line : Text) : Text :=
  (stripComment line.trim).trim

def readLine (line : Text) (d : Diagram) : Except ScriptError Diagram :=
  if content line = [] then .ok d
  else do
    let statement ← Statement.ofLine (content line)
    d.perform statement

def readLines (number : Nat) (d : Diagram) : List Text → Except LineError Diagram
  | [] => .ok d
  | line :: others =>
    match d.readLine line with
    | .ok next => next.readLines (number + 1) others
    | .error error => .error ⟨number, line, error⟩

def ofSource (source : Text) : Except LineError Diagram :=
  empty.readLines 1 source.lines

end DiagramScript.Diagram
