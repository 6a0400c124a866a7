import DiagramScript.Diagram.Listing
import DiagramScript.Proofs.Number.Display
import DiagramScript.Proofs.Script.Contents
import DiagramScript.Proofs.Script.Palette
import DiagramScript.Proofs.Text.Quoted

/-! A listing can be taken apart again. Numbers end before the first character that no number has,
quoted texts at their closing quote and colors at the end of the line, so a line determines what it
lists (`Point.listing_inj` and its like). The lines of a listing are those that were put in, because
none of them has a line end inside (`Diagram.lines_listing`), and their first letters tell the kinds
apart. So diagrams with the same listing have the same axes and annotations:
`Diagram.listing_faithful`. -/
namespace DiagramScript

theorem spaced_cons (word next : Text) (words : List Text) :
    spaced (word :: next :: words) = word ++ ' ' :: spaced (next :: words) := by
  simp [spaced, List.intercalate]

theorem spaced_single (word : Text) : spaced [word] = word := by
  simp [spaced, List.intercalate]

theorem behind_word {word r s : Text} (same : word ++ ' ' :: r = word ++ ' ' :: s) : r = s :=
  List.tail_eq_of_cons_eq (List.append_cancel_left same)

theorem Text.Single.spaced {words : List Text} (single : ∀ word ∈ words, word.Single) :
    (spaced words).Single := by
  induction words with
  | nil => exact List.forall_mem_nil _
  | cons word words ih =>
    obtain ⟨here, later⟩ := List.forall_mem_cons.mp single
    cases words with
    | nil => rwa [spaced_single]
    | cons next words =>
      rw [spaced_cons]
      exact here.append (List.forall_mem_cons.mpr ⟨by decide, ih later⟩)

theorem Text.append_cons_inj {left right r s : Text} {c : Char} (apart : c ∉ left)
    (apart' : c ∉ right) (same : left ++ c :: r = right ++ c :: s) : left = right ∧ r = s := by
  have stops {text rest : Text} (apart : c ∉ text) :
      Taken.run (· != c) (text ++ c :: rest) = ⟨text, text, c :: rest⟩ :=
    Taken.run_stops (fun d member => bne_iff_ne.mpr (ne_of_mem_of_not_mem member apart))
      (bne_self_eq_false c)
  have taken := congrArg (Taken.run (· != c)) same
  rw [stops apart, stops apart'] at taken
  obtain ⟨_, front, rest⟩ := Taken.mk.inj taken
  exact ⟨front, List.tail_eq_of_cons_eq rest⟩

namespace Binary64

theorem not_mem_display (x : Binary64) {c : Char} (outside : spellsNumber c = false) :
    c ∉ x.display := by
  intro member
  rw [x.display_characters c member] at outside
  cases outside

theorem display_single (x : Binary64) : x.display.Single := by
  refine fun c member => ⟨?_, ?_⟩ <;> rintro rfl
  · exact x.not_mem_display (by decide) member
  · exact x.not_mem_display (by decide) member

/-- A number ends where a character follows that it cannot have. -/
theorem display_append_inj {x y : Binary64} {c : Char} {r s : Text}
    (outside : spellsNumber c = false)
    (same : x.display ++ c :: r = y.display ++ c :: s) : x = y ∧ r = s := by
  obtain ⟨text, rest⟩ :=
    Text.append_cons_inj (x.not_mem_display outside) (y.not_mem_display outside) same
  exact ⟨display_injective text, rest⟩

end Binary64

namespace Coordinate

theorem display_append (p : Coordinate) (rest : Text) :
    p.display ++ rest = '(' :: (p.x.display ++ ',' :: ' ' :: (p.y.display ++ ')' :: rest)) := by
  simp [display]

theorem display_append_inj {p q : Coordinate} {r s : Text}
    (same : p.display ++ r = q.display ++ s) : p = q ∧ r = s := by
  rw [display_append, display_append] at same
  obtain ⟨x, behind⟩ := Binary64.display_append_inj (by decide) (List.tail_eq_of_cons_eq same)
  obtain ⟨y, rest⟩ := Binary64.display_append_inj (by decide) (List.tail_eq_of_cons_eq behind)
  rcases p with ⟨px, py⟩
  rcases q with ⟨qx, qy⟩
  cases x
  cases y
  exact ⟨rfl, rest⟩

theorem display_single (p : Coordinate) : p.display.Single := by
  have comma : Text.Single ", ".toList := by decide
  have before : Text.Single ['('] := by decide
  have after : Text.Single [')'] := by decide
  have inside := ((p.x.display_single.append comma).append p.y.display_single).append after
  exact before.append inside

end Coordinate

namespace Color

theorem default_unknown : ¬Known "default".toList := by
  rintro (named | ⟨digits, code, _⟩)
  · simp [names] at named
  · cases code

theorem display_inj {color? other? : Option Color} (known : ∀ c ∈ color?, Known c.text)
    (known' : ∀ c ∈ other?, Known c.text) (same : display color? = display other?) :
    color? = other? := by
  cases color? with
  | none =>
    cases other? with
    | none => rfl
    | some other =>
      -- The word for no color is the name of none.
      have unknown : other.text = "default".toList := same.symm
      exact absurd (unknown ▸ known' other rfl) default_unknown
  | some color =>
    cases other? with
    | none =>
      have unknown : color.text = "default".toList := same
      exact absurd (unknown ▸ known color rfl) default_unknown
    | some other =>
      have text : color.text = other.text := same
      rw [show color = other from congrArg Color.mk text]

theorem single_of_known {text : Text} (known : Known text) : text.Single := by
  intro c member
  have spelled := spellsColor_of_known known c member
  constructor <;> rintro rfl <;> cases spelled

theorem display_single {color? : Option Color} (known : ∀ c ∈ color?, Known c.text) :
    (display color?).Single := by
  cases color? with
  | none => decide
  | some color => exact single_of_known (known color rfl)

end Color

theorem Axis.listing_inj {name : Text} {axis other : Axis}
    (same : axis.listing name = other.listing name) : axis = other := by
  simp only [Axis.listing, spaced_cons, spaced_single] at same
  obtain ⟨first, later⟩ := Binary64.display_append_inj (by decide) (behind_word same)
  obtain ⟨last, interval⟩ := Binary64.display_append_inj (by decide) later
  have interval := Binary64.display_injective (behind_word interval)
  cases axis
  cases other
  cases first
  cases last
  cases interval
  rfl

theorem Point.listing_inj {point other : Point} (known : ∀ c ∈ point.color?, Color.Known c.text)
    (known' : ∀ c ∈ other.color?, Color.Known c.text) (same : point.listing = other.listing) :
    point = other := by
  simp only [Point.listing, spaced_cons, spaced_single] at same
  obtain ⟨place, color⟩ := Coordinate.display_append_inj (behind_word same)
  have color := Color.display_inj known known' (List.tail_eq_of_cons_eq color)
  cases point
  cases other
  cases place
  cases color
  rfl

theorem Segment.listing_inj {segment other : Segment}
    (known : ∀ c ∈ segment.color?, Color.Known c.text)
    (known' : ∀ c ∈ other.color?, Color.Known c.text) (same : segment.listing = other.listing) :
    segment = other := by
  simp only [Segment.listing, spaced_cons, spaced_single] at same
  obtain ⟨start, later⟩ := Coordinate.display_append_inj (behind_word same)
  obtain ⟨finish, color⟩ := Coordinate.display_append_inj (List.tail_eq_of_cons_eq later)
  have color := Color.display_inj known known' (List.tail_eq_of_cons_eq color)
  cases segment
  cases other
  cases start
  cases finish
  cases color
  rfl

theorem Circle.listing_inj {circle other : Circle}
    (known : ∀ c ∈ circle.color?, Color.Known c.text)
    (known' : ∀ c ∈ other.color?, Color.Known c.text) (same : circle.listing = other.listing) :
    circle = other := by
  simp only [Circle.listing, spaced_cons, spaced_single] at same
  obtain ⟨radius, color⟩ := Binary64.display_append_inj (by decide) (behind_word same)
  have color := Color.display_inj known known' color
  cases circle
  cases other
  cases radius
  cases color
  rfl

theorem Label.listing_inj {label other : Label} (same : label.listing = other.listing) :
    label = other := by
  simp only [Label.listing, spaced_cons, spaced_single] at same
  obtain ⟨place, later⟩ := Coordinate.display_append_inj (behind_word same)
  obtain ⟨text, color⟩ := Text.quoted_append_inj (List.tail_eq_of_cons_eq later)
  rcases label with ⟨_, _, ⟨_⟩⟩
  rcases other with ⟨_, _, ⟨_⟩⟩
  cases place
  cases text
  cases List.tail_eq_of_cons_eq color
  rfl

section Single

theorem Axis.listing_single {name : Text} (single : name.Single) (axis : Axis) :
    (axis.listing name).Single := by
  refine Text.Single.spaced ?_
  simp only [List.forall_mem_cons]
  exact ⟨single, axis.first.display_single, axis.last.display_single, by decide,
    axis.interval.display_single, List.forall_mem_nil _⟩

theorem Point.listing_single {point : Point} (known : ∀ c ∈ point.color?, Color.Known c.text) :
    point.listing.Single := by
  refine Text.Single.spaced ?_
  simp only [List.forall_mem_cons]
  exact ⟨by decide, point.place.display_single, Color.display_single known, List.forall_mem_nil _⟩

theorem Segment.listing_single {segment : Segment}
    (known : ∀ c ∈ segment.color?, Color.Known c.text) : segment.listing.Single := by
  refine Text.Single.spaced ?_
  simp only [List.forall_mem_cons]
  exact ⟨by decide, segment.start.display_single, segment.finish.display_single,
    Color.display_single known, List.forall_mem_nil _⟩

theorem Circle.listing_single {circle : Circle}
    (known : ∀ c ∈ circle.color?, Color.Known c.text) : circle.listing.Single := by
  refine Text.Single.spaced ?_
  simp only [List.forall_mem_cons]
  exact ⟨by decide, circle.radius.display_single, Color.display_single known,
    List.forall_mem_nil _⟩

theorem Label.listing_single {label : Label} (known : Color.Known label.color.text) :
    label.listing.Single := by
  refine Text.Single.spaced ?_
  simp only [List.forall_mem_cons]
  exact ⟨by decide, label.place.display_single, label.text.quoted_single,
    Color.single_of_known known, List.forall_mem_nil _⟩

end Single

theorem Text.lines_flatMap {lines : List Text} (single : ∀ line ∈ lines, line.Single) :
    Text.lines (lines.flatMap (· ++ ['\n'])) = lines := by
  induction lines with
  | nil => rfl
  | cons line lines ih =>
    obtain ⟨here, later⟩ := List.forall_mem_cons.mp single
    have one : Text.lines (line ++ ['\n']) = [line] := by
      obtain ⟨line', cut, same⟩ := Text.lines_single_feed fun member => (here _ member).1 rfl
      rcases same with rfl | rfl
      · exact cut
      · exact absurd rfl (here '\r' (by simp)).2
    rw [List.flatMap_cons, List.append_assoc, List.singleton_append, Text.lines_append_feed, one,
      ih later, List.singleton_append]

theorem eq_of_map_eq {α β : Type} {f : α → β} {P : α → Prop}
    (inj : ∀ a b, P a → P b → f a = f b → a = b) {l l' : List α} (holds : ∀ a ∈ l, P a)
    (holds' : ∀ a ∈ l', P a) (same : l.map f = l'.map f) : l = l' := by
  induction l generalizing l' with
  | nil => exact (List.map_eq_nil_iff.mp same.symm).symm
  | cons a l ih =>
    cases l' with
    | nil => cases same
    | cons b l' =>
      obtain ⟨here, later⟩ := List.forall_mem_cons.mp holds
      obtain ⟨here', later'⟩ := List.forall_mem_cons.mp holds'
      obtain ⟨head, tail⟩ := List.cons.inj same
      rw [inj a b here here' head, ih later later' tail]

namespace Diagram

variable {d e : Diagram}

theorem lines_listing (colored : d.Colored) : d.listing.lines = d.listingLines := by
  refine Text.lines_flatMap ?_
  simp only [listingLines, List.mem_append, List.mem_cons, List.not_mem_nil, or_false,
    List.mem_map]
  rintro line (((((rfl | rfl) | ⟨point, member, rfl⟩) | ⟨segment, member, rfl⟩) |
    ⟨circle, member, rfl⟩) | ⟨label, member, rfl⟩)
  · exact Axis.listing_single (by decide) d.xAxis
  · exact Axis.listing_single (by decide) d.yAxis
  · exact Point.listing_single (colored.points point member)
  · exact Segment.listing_single (colored.segments segment member)
  · exact Circle.listing_single (colored.circles circle member)
  · exact Label.listing_single (colored.labels label member)

theorem length_listingLines (d : Diagram) :
    d.listingLines.length =
      2 + d.points.length + d.segments.length + d.circles.length + d.labels.length := by
  simp only [listingLines, List.length_append, List.length_cons, List.length_nil, List.length_map]

section Kinds

@[simp] theorem head?_point (point : Point) : point.listing.head? = some 'p' := by
  simp [Point.listing, spaced_cons]

@[simp] theorem head?_segment (segment : Segment) : segment.listing.head? = some 'l' := by
  simp [Segment.listing, spaced_cons]

@[simp] theorem head?_circle (circle : Circle) : circle.listing.head? = some 'c' := by
  simp [Circle.listing, spaced_cons]

@[simp] theorem head?_label (label : Label) : label.listing.head? = some 't' := by
  simp [Label.listing, spaced_cons]

def listingOf (letter : Char) (d : Diagram) : List Text :=
  (d.listingLines.drop 2).filter fun line => line.head? = some letter

variable (d)

theorem listingOf_points : d.listingOf 'p' = d.points.map Point.listing := by
  simp [listingOf, listingLines, List.filter_map, Function.comp_def]

theorem listingOf_segments : d.listingOf 'l' = d.segments.map Segment.listing := by
  simp [listingOf, listingLines, List.filter_map, Function.comp_def]

theorem listingOf_circles : d.listingOf 'c' = d.circles.map Circle.listing := by
  simp [listingOf, listingLines, List.filter_map, Function.comp_def]

theorem listingOf_labels : d.listingOf 't' = d.labels.map Label.listing := by
  simp [listingOf, listingLines, List.filter_map, Function.comp_def]

end Kinds

theorem annotations_of_listingLines (colored : d.Colored) (colored' : e.Colored)
    (same : d.listingLines = e.listingLines) :
    d.points = e.points ∧ d.segments = e.segments ∧ d.circles = e.circles ∧
      d.labels = e.labels := by
  have kind (letter : Char) : d.listingOf letter = e.listingOf letter := by
    rw [listingOf, same, listingOf]
  have points := kind 'p'
  have segments := kind 'l'
  have circles := kind 'c'
  have labels := kind 't'
  rw [listingOf_points, listingOf_points] at points
  rw [listingOf_segments, listingOf_segments] at segments
  rw [listingOf_circles, listingOf_circles] at circles
  rw [listingOf_labels, listingOf_labels] at labels
  refine ⟨?_, ?_, ?_, ?_⟩
  · exact eq_of_map_eq (fun _ _ => Point.listing_inj) colored.points colored'.points points
  · exact eq_of_map_eq (fun _ _ => Segment.listing_inj) colored.segments colored'.segments segments
  · exact eq_of_map_eq (fun _ _ => Circle.listing_inj) colored.circles colored'.circles circles
  · exact List.map_injective_iff.mpr (fun _ _ => Label.listing_inj) labels

/-- The listing is faithful: whatever two sources say, if it is listed in the same way then it has
the same axes and the same points, segments, circles and labels, in the same order. And every
listing has one line for each axis and for each annotation, whatever the labels say. -/
theorem listing_faithful {source other : Text} (parsed : ofSource source = .ok d)
    (parsed' : ofSource other = .ok e) :
    (d.listing = e.listing →
      d.xAxis = e.xAxis ∧ d.yAxis = e.yAxis ∧ d.points = e.points ∧ d.segments = e.segments ∧
        d.circles = e.circles ∧ d.labels = e.labels) ∧
      d.listing.lines.length =
        2 + d.points.length + d.segments.length + d.circles.length + d.labels.length := by
  have colored := colored_of_ofSource parsed
  have colored' := colored_of_ofSource parsed'
  constructor
  · intro same
    have lines : d.listingLines = e.listingLines := by
      rw [← lines_listing colored, same, lines_listing colored']
    -- The lines of the axes come first, and the kinds of the others differ in their first letters.
    have axes : d.xAxis.listing "xrange".toList = e.xAxis.listing "xrange".toList ∧
        d.yAxis.listing "yrange".toList = e.yAxis.listing "yrange".toList := by
      simp only [listingLines, List.cons_append, List.cons.injEq] at lines
      exact ⟨lines.1, lines.2.1⟩
    exact ⟨Axis.listing_inj axes.1, Axis.listing_inj axes.2,
      annotations_of_listingLines colored colored' lines⟩
  · rw [lines_listing colored, length_listingLines]

theorem listing_faithful_of_quotes :
    ∃ d e, ofSource "text 1, x\\ny".toList = .ok d ∧
      ofSource "text 1.0, \"x\\ny\"".toList = .ok e ∧
      d.labels = e.labels ∧ d.listing.lines.length = 3 := by
  have parsed : ofSource "text 1, x\\ny".toList =
      .ok { empty with
        labels := [⟨⟨.one, .zero false⟩, "x\ny".toList, Color.black⟩] } := by decide +kernel
  have parsed' : ofSource "text 1.0, \"x\\ny\"".toList =
      .ok { empty with
        labels := [⟨⟨.one, .zero false⟩, "x\ny".toList, Color.black⟩] } := by decide +kernel
  obtain ⟨faithful, lines⟩ := listing_faithful parsed parsed'
  obtain ⟨_, _, _, _, _, labels⟩ := faithful rfl
  exact ⟨_, _, parsed, parsed', labels, lines⟩

end Diagram
end DiagramScript
