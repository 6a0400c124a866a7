import DiagramScript.Proofs.Script.Colors
import DiagramScript.Proofs.Script.Records
import DiagramScript.Proofs.Script.Words

/-! The colors of a diagram. A line adds no color but the one that it names, and that one has been
checked, so every color of a diagram is a name from the list or six digits:
`Diagram.colors_known`. -/
namespace DiagramScript

namespace Statement

theorem known_of_readColor {mark? : Option Text} {color? : Option Color}
    (read : readColor mark? = .ok color?) : ∀ color ∈ color?, Color.Known color.text := by
  cases mark? with
  | none =>
    cases read
    simp
  | some mark =>
    rw [readColor] at read
    cases accepted : Color.ofText mark with
    | error error =>
      rw [accepted] at read
      cases read
    | ok color =>
      rw [accepted] at read
      cases read
      obtain ⟨known, rfl⟩ := Color.ofText_eq_ok_iff.mp accepted
      simpa using known

theorem known_of_ofLine {line : Text} {statement : Statement}
    (read : ofLine line = .ok statement) : ∀ color ∈ statement.color?, Color.Known color.text := by
  rw [ofLine_eq, bind_eq_ok_iff] at read
  obtain ⟨color?, accepted, same⟩ := read
  cases same
  exact known_of_readColor accepted

end Statement

def Record.colors : Record → List Color
  | .point p => p.color?.toList
  | .segment s => s.color?.toList
  | .circle c => c.color?.toList
  | .label l => [l.color]
  | _ => []

theorem Says.known {bindings : Bindings} {statement : Statement} {record : Record}
    (meaning : Says bindings statement record)
    (checked : ∀ color ∈ statement.color?, Color.Known color.text) :
    ∀ color ∈ record.colors, Color.Known color.text := by
  cases meaning with
  | xRange | yRange | xInterval | yInterval | binding => simp [Record.colors]
  | point | segment | circle => simpa [Record.colors] using checked
  | @label _ _ color? =>
    cases color? with
    | none => simpa [Record.colors] using Color.black_known
    | some color => simpa [Record.colors] using checked

namespace Diagram

def colors (d : Diagram) : List Color :=
  d.points.filterMap (·.color?) ++ d.segments.filterMap (·.color?) ++
    d.circles.filterMap (·.color?) ++ d.labels.map (·.color)

structure Colored (d : Diagram) : Prop where
  points : ∀ point ∈ d.points, ∀ c ∈ point.color?, Color.Known c.text
  segments : ∀ segment ∈ d.segments, ∀ c ∈ segment.color?, Color.Known c.text
  circles : ∀ circle ∈ d.circles, ∀ c ∈ circle.color?, Color.Known c.text
  labels : ∀ label ∈ d.labels, Color.Known label.color.text

theorem mem_colors_add {d : Diagram} {record : Record} {color : Color} :
    color ∈ (d.add record).colors ↔ color ∈ d.colors ∨ color ∈ record.colors := by
  have one {α : Type} (color? : α → Option Color) (a : α) :
      [a].filterMap color? = (color? a).toList := by
    cases found : color? a <;> simp [found]
  cases record with
  | xRange | yRange | xInterval | yInterval | binding => simp [add, colors, Record.colors]
  | point | segment | circle | label =>
    simp only [add, colors, Record.colors, List.filterMap_append, one, List.map_append,
      List.map_singleton, List.mem_append]
    tauto

theorem known_of_readLine {line : Text} {d next : Diagram} (read : d.readLine line = .ok next)
    (known : ∀ color ∈ d.colors, Color.Known color.text) :
    ∀ color ∈ next.colors, Color.Known color.text := by
  rw [readLine] at read
  split at read
  · cases read
    exact known
  · obtain ⟨statement, cut, performed⟩ := bind_eq_ok_iff.mp read
    obtain ⟨record, meaning, rfl⟩ := perform_eq_ok_iff.mp performed
    intro color member
    rcases mem_colors_add.mp member with old | new
    · exact known color old
    · exact meaning.known (Statement.known_of_ofLine cut) color new

theorem known_of_readLines {lines : List Text} {number : Nat} {d next : Diagram}
    (read : d.readLines number lines = .ok next)
    (known : ∀ color ∈ d.colors, Color.Known color.text) :
    ∀ color ∈ next.colors, Color.Known color.text := by
  induction lines generalizing number d with
  | nil =>
    cases read
    exact known
  | cons line lines ih =>
    rw [readLines] at read
    split at read
    · rename_i between here
      exact ih read (known_of_readLine here known)
    · cases read

theorem colored_of_ofSource {source : Text} {d : Diagram} (parsed : ofSource source = .ok d) :
    d.Colored := by
  have known := known_of_readLines parsed (by simp [colors, empty])
  simp only [colors, List.mem_append, List.mem_filterMap, List.mem_map] at known
  constructor
  · exact fun point member c given => known c (.inl (.inl (.inl ⟨point, member, given⟩)))
  · exact fun segment member c given => known c (.inl (.inl (.inr ⟨segment, member, given⟩)))
  · exact fun circle member c given => known c (.inl (.inr ⟨circle, member, given⟩))
  · exact fun label member => known label.color (.inr ⟨label, member, rfl⟩)

/-- All colors of a diagram are names from the list or codes of six digits, in lower case. A text is
checked without regard to case: it is accepted exactly when its lower case is such a color, which is
what is kept and what is accepted again, and otherwise it is refused with its lower case. -/
theorem colors_known :
    (∀ (source : Text) (d : Diagram), ofSource source = .ok d →
      ∀ color ∈ d.colors, Color.Known color.text) ∧
      ∀ text : Text,
        ((search? (fun name => compare name (String.ofList text.lowercase)) Color.names).isSome ↔
          String.ofList text.lowercase ∈ Color.names) ∧
        (Color.Known text.lowercase →
          Color.ofText text = .ok ⟨text.lowercase⟩ ∧
            Color.ofText text.lowercase = .ok ⟨text.lowercase⟩ ∧
            Color.validate (some text) = .ok ()) ∧
        (¬Color.Known text.lowercase →
          Color.ofText text = .error (.invalidColor text.lowercase) ∧
            Color.validate (some text) = .error (.invalidColor text.lowercase)) := by
  refine ⟨fun source d parsed => known_of_readLines parsed (by simp [colors, empty]), ?_⟩
  intro text
  refine ⟨search?_isSome_iff Color.names_sorted, ?_, ?_⟩
  · intro known
    rw [Color.ofText_eq, Color.ofText_eq, Color.validate_eq, Text.lowercase_lowercase]
    simp [known]
  · intro unknown
    rw [Color.ofText_eq, Color.validate_eq]
    simp [unknown]

theorem colors_known_of_mixed_case :
    (∃ d, ofSource "point 1 ! ReD\ncircle 2 ! #00FFaa\ntext 1, a".toList = .ok d ∧
      d.colors = [⟨"red".toList⟩, ⟨"#00ffaa".toList⟩, ⟨"black".toList⟩] ∧
      ∀ color ∈ d.colors, Color.Known color.text) ∧
      Color.ofText "DarkBlue".toList = .ok ⟨"darkblue".toList⟩ ∧
      Color.ofText "#12AB".toList = .error (.invalidColor "#12ab".toList) := by
  have parsed : ofSource "point 1 ! ReD\ncircle 2 ! #00FFaa\ntext 1, a".toList =
      .ok { empty with
        points := [⟨⟨.one, .zero false⟩, some ⟨"red".toList⟩⟩]
        circles := [⟨.one + .one, some ⟨"#00ffaa".toList⟩⟩]
        labels := [⟨⟨.one, .zero false⟩, "a".toList, ⟨"black".toList⟩⟩] } := by decide +kernel
  have lower : Text.lowercase "DarkBlue".toList = "darkblue".toList := by decide +kernel
  have lower' : Text.lowercase "#12AB".toList = "#12ab".toList := by decide +kernel
  have accepted := (colors_known.2 "DarkBlue".toList).2.1 (by decide +kernel)
  have refused := (colors_known.2 "#12AB".toList).2.2 (by decide +kernel)
  rw [lower] at accepted
  rw [lower'] at refused
  exact ⟨⟨_, parsed, rfl, colors_known.1 _ _ parsed⟩, accepted.1, refused.1⟩

end Diagram
end DiagramScript
