import DiagramScript.Diagram.Basic
import DiagramScript.Script.Argument
import DiagramScript.Script.Statement

/-! The commands of scripts and what each of them changes in a diagram. -/
namespace DiagramScript

inductive Command where
  | xRange
  | yRange
  | xInterval
  | yInterval
  | bindName
  | point
  | line
  | text
  | circle
deriving DecidableEq

namespace Command

def all : List Command :=
  [.xRange, .yRange, .xInterval, .yInterval, .bindName, .point, .line, .text, .circle]

def name : Command → Text
  | .xRange => "xrange".toList
  | .yRange => "yrange".toList
  | .xInterval => "xinterval".toList
  | .yInterval => "yinterval".toList
  | .bindName => "variable".toList
  | .point => "point".toList
  | .line => "line".toList
  | .text => "text".toList
  | .circle => "circle".toList

def arity : Command → Nat
  | .xRange => 2
  | .yRange => 2
  | .xInterval => 1
  | .yInterval => 1
  | .bindName => 2
  | .point => 1
  | .line => 2
  | .text => 2
  | .circle => 1

def ofName? (word : Text) : Option Command :=
  all.find? fun command => command.name == word

/-- The diagram after a command. Arguments are read from left to right, but a value is computed
before its name is looked at. -/
def apply (command : Command) (arguments : List Text) (color? : Option Color) (d : Diagram) :
    Except ScriptError Diagram :=
  match command, arguments with
  | .xRange, [first, last] => do
    let first ← Argument.number first
    let last ← Argument.number last
    .ok { d with xAxis := { d.xAxis with first, last } }
  | .yRange, [first, last] => do
    let first ← Argument.number first
    let last ← Argument.number last
    .ok { d with yAxis := { d.yAxis with first, last } }
  | .xInterval, [interval] => do
    let interval ← Argument.number interval
    .ok { d with xAxis := { d.xAxis with interval } }
  | .yInterval, [interval] => do
    let interval ← Argument.number interval
    .ok { d with yAxis := { d.yAxis with interval } }
  | .bindName, [name, value] => do
    let value ← Argument.coordinate d.bindings value
    let bindings ← d.bindings.bind name value
    .ok { d with bindings }
  | .point, [place] => do
    let place ← Argument.coordinate d.bindings place
    .ok { d with points := d.points ++ [⟨place, color?⟩] }
  | .line, [start, finish] => do
    let start ← Argument.coordinate d.bindings start
    let finish ← Argument.coordinate d.bindings finish
    .ok { d with segments := d.segments ++ [⟨start, finish, color?⟩] }
  | .text, [place, words] => do
    let place ← Argument.coordinate d.bindings place
    .ok { d with labels := d.labels ++ [⟨place, Argument.label words, color?.getD Color.black⟩] }
  | .circle, [radius] => do
    let radius ← Argument.number radius
    .ok { d with circles := d.circles ++ [⟨radius, color?⟩] }
  | command, arguments => .error (.argumentCount command.name command.arity arguments.length)

end Command
end DiagramScript
