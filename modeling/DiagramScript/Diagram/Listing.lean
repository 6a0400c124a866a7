import DiagramScript.Diagram.Basic
import DiagramScript.Text.Quoted

/-! Diagrams written out: a line for each axis, then one for each annotation, kind by kind. -/
namespace DiagramScript

def Color.display (color? : Option Color) : Text :=
  match color? with
  | some color => color.text
  | none => "default".toList

def spaced (words : List Text) : Text :=
  List.intercalate [' '] words

def Axis.listing (name : Text) (axis : Axis) : Text :=
  spaced [name, axis.first.display, axis.last.display, "every".toList, axis.interval.display]

def Point.listing (point : Point) : Text :=
  spaced ["point".toList, point.place.display, Color.display point.color?]

def Segment.listing (segment : Segment) : Text :=
  spaced ["line".toList, segment.start.display, segment.finish.display,
    Color.display segment.color?]

def Circle.listing (circle : Circle) : Text :=
  spaced ["circle".toList, circle.radius.display, Color.display circle.color?]

def Label.listing (label : Label) : Text :=
  spaced ["text".toList, label.place.display, label.text.quoted, label.color.text]

namespace Diagram

def listingLines (d : Diagram) : List Text :=
  [d.xAxis.listing "xrange".toList, d.yAxis.listing "yrange".toList] ++
    d.points.map Point.listing ++ d.segments.map Segment.listing ++
    d.circles.map Circle.listing ++ d.labels.map Label.listing

def listing (d : Diagram) : Text :=
  d.listingLines.flatMap (· ++ ['\n'])

end Diagram
end DiagramScript
