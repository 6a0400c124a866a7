import DiagramScript.Script.Color
import DiagramScript.Text.Blank

/-! Lines of a script cut into a command word, arguments and a color. A percent sign starts a
comment, commas separate arguments, and an exclamation mark starts the color; inside brackets and
quotes commas and exclamation marks have no such meaning. -/
namespace DiagramScript

/-- The text up to the first percent sign that no backslash escapes. A backslash escapes the
character after it, another backslash included. -/
def beforeComment (escaped : Bool) : Text → Text
  | [] => []
  | c :: rest =>
    if c = '%' ∧ escaped = false then []
    else c :: beforeComment (c == '\\' && !escaped) rest

def stripComment (line : Text) : Text :=
  beforeComment false line

structure Statement where
  command : Text
  arguments : List Text
  color? : Option Color
deriving DecidableEq

namespace Statement

structure Draft where
  command? : Option Text
  /-- The arguments that are complete, the last one first. -/
  arguments : List Text
  /-- The characters since then, the last one first. -/
  pending : Text
  /-- Whether the place is inside brackets or quotes. Both share one mark, and neither nests. -/
  inLiteral : Bool

namespace Draft

def start : Draft := ⟨none, [], [], false⟩

def literalAfter (inLiteral : Bool) (c : Char) : Bool :=
  if c = '[' then true
  else if c = ']' then false
  else if c = '"' then !inLiteral
  else inLiteral

def close (s : Draft) : Draft :=
  { s with arguments := Text.trim s.pending.reverse :: s.arguments, pending := [] }

/-- Reads one character other than the mark of a color. The first space of the line ends the
command word, whatever stands before it. -/
def step (s : Draft) (c : Char) : Draft :=
  if c = ' ' ∧ s.command? = none then { s with command? := some s.pending.reverse, pending := [] }
  else if c = ',' ∧ s.inLiteral = false then s.close
  else { s with pending := c :: s.pending, inLiteral := literalAfter s.inLiteral c }

def finish (s : Draft) : Text → Draft × Option Text
  | [] => (s.close, none)
  | c :: rest =>
    if c = '!' ∧ s.inLiteral = false then (s.close, some rest) else (s.step c).finish rest

/-- The command and its arguments. A line without a space has no arguments: its first part is the
command, and the others are dropped. -/
def parts (s : Draft) : Text × List Text :=
  match s.command? with
  | some command => (command, s.arguments.reverse)
  | none => (s.arguments.reverse.headD [], [])

end Draft

def ofLine (line : Text) : Except ScriptError Statement := do
  let (read, mark?) := Draft.start.finish line.trim
  let color? ←
    match mark? with
    | some mark => (Color.ofText mark.trim).map some
    | none => .ok none
  let (command, arguments) := read.parts
  .ok ⟨command, arguments, color?⟩

end Statement
end DiagramScript
