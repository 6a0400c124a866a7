import DiagramScript.Script.Bindings
import DiagramScript.Script.Color

/-! Diagrams: two axes, the annotations in the order in which they were made, and the bindings. -/
namespace DiagramScript

structure Axis where
  first : Binary64
  last : Binary64
  interval : Binary64
deriving DecidableEq

structure Point where
  place : Coordinate
  color? : Option Color
deriving DecidableEq

structure Segment where
  start : Coordinate
  finish : Coordinate
  color? : Option Color
deriving DecidableEq

structure Circle where
  radius : Binary64
  color? : Option Color
deriving DecidableEq

structure Label where
  place : Coordinate
  text : Text
  color : Color
deriving DecidableEq

structure Diagram where
  xAxis : Axis
  yAxis : Axis
  points : List Point
  segments : List Segment
  circles : List Circle
  labels : List Label
  bindings : Bindings
deriving DecidableEq

def Axis.default : Axis where
  first := -Binary64.one
  last := Binary64.one
  interval := Binary64.ofRatio false Binary64.unitsPerOne 5

def Axis.equals (a b : Axis) : Bool :=
  a.first.equals b.first && a.last.equals b.last && a.interval.equals b.interval

def Point.agrees (p q : Point) : Bool :=
  p.place.agrees q.place && p.color? == q.color?

def Segment.agrees (s t : Segment) : Bool :=
  s.start.agrees t.start && s.finish.agrees t.finish && s.color? == t.color?

def Circle.agrees (c d : Circle) : Bool :=
  c.radius.equals d.radius && c.color? == d.color?

def Label.agrees (l m : Label) : Bool :=
  l.place.agrees m.place && l.text == m.text && l.color == m.color

namespace Diagram

def empty : Diagram where
  xAxis := .default
  yAxis := .default
  points := []
  segments := []
  circles := []
  labels := []
  bindings := .empty

def agreesAll {α : Type} (same : α → α → Bool) : List α → List α → Bool
  | [], [] => true
  | a :: as, b :: bs => same a b && agreesAll same as bs
  | _, _ => false

/-- Equality of diagrams. Numbers of axes and radii are compared as numbers, coordinates as places,
and all annotations in order. -/
def agrees (d e : Diagram) : Bool :=
  d.xAxis.equals e.xAxis && d.yAxis.equals e.yAxis &&
    agreesAll Point.agrees d.points e.points &&
    agreesAll Segment.agrees d.segments e.segments &&
    agreesAll Circle.agrees d.circles e.circles &&
    agreesAll Label.agrees d.labels e.labels &&
    d.bindings.agrees e.bindings

end Diagram
end DiagramScript
