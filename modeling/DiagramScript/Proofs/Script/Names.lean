import DiagramScript.Proofs.Script.Lines
import DiagramScript.Proofs.Script.OneLine
import DiagramScript.Proofs.Script.Records

/-! Bound names. However a line was written that binds a name, the name can be written again: as a
reference, which finds its value, and as a name to bind, which is refused. -/
namespace DiagramScript

open Statement

theorem IsName.of_trim {text : Text} (single : '\n' ∉ text) (uncommented : Uncommented false text)
    (whole : Free ',' false text) (colorless : Free '!' false text)
    (closed : insideAfter false text = false) : IsName text.trim := by
  obtain ⟨lead, tail, before, after, split⟩ := text.exists_trim
  have outside := insideAfter_of_blank before false
  have through := insideAfter_of_blank after
  rw [split, Free.append_iff, Free.append_iff, outside] at whole colorless
  rw [split, insideAfter_append, insideAfter_append, outside, through] at closed
  exact ⟨text.trim_trim, fun feed => single (Text.mem_of_mem_trim feed), uncommented.trim,
    whole.2.1, colorless.2.1, closed⟩

theorem isName_of_ofLine {line name value : Text} {color? : Option Color} {word : Text}
    (plain : IsWord word) (trimmed : line.trim = line) (single : '\n' ∉ line)
    (uncommented : Uncommented false line)
    (read : ofLine line = .ok ⟨word, [name, value], color?⟩) : IsName name := by
  obtain ⟨front, rest, init, shape, _, front_colorless, front_cut, given⟩ :=
    ofLine_eq_ok read (List.cons_ne_nil _ _)
  rw [trimmed] at shape
  subst shape
  dsimp only at front_cut given
  rcases init with _ | ⟨first, init⟩
  · -- The name stands behind the command.
    obtain ⟨rfl, _⟩ := free_of_pieces front_cut
    rw [insideAfter_of_isWord plain, List.nil_append] at given
    obtain ⟨split, colorless, _⟩ := cutColor_spec false rest
    rcases cut : pieces false (cutColor false rest).1 with _ | ⟨first, _ | ⟨second, others⟩⟩
    · exact absurd cut (pieces_ne_nil _ _)
    · rw [cut] at given
      cases given
    · rw [cut] at given
      obtain ⟨rfl, _⟩ := List.cons.inj given
      obtain ⟨behind, shape, whole, closed, _⟩ := split_of_pieces cut
      rw [shape, Free.append_iff] at colorless
      rw [shape, List.append_assoc] at split
      have before := (uncommented_append_iff.mp uncommented).2
      rw [uncommented_cons_iff, split] at before
      refine .of_trim ?_ (uncommented_append_iff.mp before.2).1 whole colorless.1 closed
      intro feed
      refine single (List.mem_append_right _ (List.mem_cons_of_mem _ ?_))
      rw [split]
      exact List.mem_append_left _ feed
  · -- The name stands in front of a comma and the command.
    obtain ⟨rfl, _⟩ := List.cons.inj given
    obtain ⟨second, others, more⟩ : ∃ second others, init ++ [word] = second :: others :=
      List.exists_cons_of_ne_nil (List.append_ne_nil_of_right_ne_nil init (List.cons_ne_nil _ _))
    rw [List.cons_append, more] at front_cut
    obtain ⟨behind, rfl, whole, closed, _⟩ := split_of_pieces front_cut
    rw [Free.append_iff] at front_colorless
    rw [List.append_assoc] at uncommented single
    refine .of_trim ?_ (uncommented_append_iff.mp uncommented).1 whole front_colorless.1 closed
    intro feed
    exact single (List.mem_append_left _ feed)

theorem IsName.coordinate {name : Text} (named : IsName name) (bindings : Bindings) :
    Argument.coordinate bindings ('@' :: name) = bindings.fetch name := by
  have whole : Text.trim ('@' :: name) = '@' :: name := by
    rcases name with _ | ⟨c, rest⟩
    · decide
    · exact Text.trim_cons_append rfl [] named.trimmed (List.cons_ne_nil _ _)
  rw [Argument.coordinate, whole, Argument.coordinateTrimmed, named.trimmed]

theorem exists_line_of_tells {bindings : Bindings} {lines : List Text} {records : List Record}
    (tells : Tells bindings lines records) {record : Record} (member : record ∈ records) :
    ∃ line ∈ lines, ∃ bindings' statement,
      ofLine line = .ok statement ∧ Says bindings' statement record := by
  induction tells with
  | nil => cases member
  | @cons bindings line statement record' lines records read meaning _ ih =>
    rcases List.mem_cons.mp member with rfl | later
    · exact ⟨line, List.mem_cons_self, bindings, statement, read, meaning⟩
    · obtain ⟨line', member', found⟩ := ih later
      exact ⟨line', List.mem_cons_of_mem _ member', found⟩

theorem not_mem_of_tells {bindings : Bindings} {lines : List Text} {records : List Record}
    (tells : Tells bindings lines records) {name : Text} {value : Coordinate}
    (bound : bindings.find? name = some value) (other : Coordinate) :
    .binding name other ∉ records := by
  induction tells with
  | nil => exact List.not_mem_nil
  | cons _ meaning _ ih =>
    rw [List.mem_cons, not_or]
    refine ⟨?_, ih (Bindings.find?_after bound _)⟩
    rintro rfl
    cases meaning with
    | binding _ free =>
      rw [bound] at free
      cases free

namespace Diagram

theorem content_of_mem_said {source line : Text} (member : line ∈ said source.lines) :
    line.trim = line ∧ '\n' ∉ line ∧ Uncommented false line := by
  obtain ⟨line', member', rfl⟩ := List.mem_map.mp (List.mem_filter.mp member).1
  refine ⟨trim_content line', fun feed => ?_, uncommented_content line'⟩
  have feed' := mem_of_mem_beforeComment (Text.mem_of_mem_trim feed)
  exact Text.not_mem_of_mem_lines line' member' (Text.mem_of_mem_trim feed')

theorem isName_of_bound {source : Text} {d : Diagram} (read : ofSource source = .ok d)
    {name : Text} {value : Coordinate} (bound : d.bindings.find? name = some value) :
    IsName name := by
  obtain ⟨records, tells, same⟩ := readLines_eq_ok_iff.mp read
  have member : (name, value) ∈ records.filterMap Record.binding? := by
    rw [← (holds_iff.mpr same).bindings]
    obtain ⟨before, after, split, _⟩ := List.lookup_eq_some_iff.mp bound
    simp [split]
  obtain ⟨line, member, _, statement, cut, meaning⟩ :=
    exists_line_of_tells tells (Record.mem_of_mem_bindings member)
  obtain ⟨trimmed, single, uncommented⟩ := content_of_mem_said member
  cases meaning with
  | binding => exact isName_of_ofLine (isWord_name .bindName) trimmed single uncommented cut

theorem ofSource_line {source line : Text} {d : Diagram} (read : ofSource source = .ok d)
    (single : '\n' ∉ line) (some : line ≠ []) :
    ofSource (source ++ '\n' :: line) =
      match d.readLine line with
      | .ok next => .ok next
      | .error error => .error ⟨(Text.lines (source ++ '\n' :: line)).length, line, error⟩ := by
  have alone := Text.lines_of_single single some
  have count : (Text.lines (source ++ '\n' :: line)).length =
      1 + (Text.lines (source ++ ['\n'])).length := by
    rw [Text.lines_append_feed, alone, List.length_append, List.length_singleton, Nat.add_comm]
  rw [ofSource_feed read, alone, count, readLines]
  rfl

theorem readLine_reference {name : Text} (named : IsName name) {d : Diagram} {value : Coordinate}
    (bound : d.bindings.find? name = some value) :
    d.readLine ("point @".toList ++ name) =
      .ok { d with points := d.points ++ [⟨value, none⟩] } := by
  have marked (mark : Char) (other : '@' ≠ mark) (free : Free mark false name) :
      Free mark false ('@' :: name) := ⟨fun same => other same.1, free⟩
  have uncommented : Uncommented false ('@' :: name) :=
    uncommented_cons_iff.mpr ⟨by decide, named.uncommented⟩
  have said : Text.trim ('@' :: name) ≠ [] := Text.trim_ne_nil List.mem_cons_self rfl
  have read := readLine_point uncommented said (marked ',' (by decide) named.whole)
    (marked '!' (by decide) named.colorless) d
  have found : d.bindings.fetch name = .ok value := by rw [Bindings.fetch, bound]
  rw [Argument.coordinate, Text.trim_trim, ← Argument.coordinate, named.coordinate, found] at read
  exact read

theorem readLine_rebinding {name : Text} (named : IsName name) {d : Diagram} {value : Coordinate}
    (bound : d.bindings.find? name = some value) :
    d.readLine ("variable ".toList ++ (name ++ ", 0".toList)) =
      .error (.alreadyBound name ⟨.zero false, .zero false⟩) := by
  have plain : Unreserved "0".toList := .of_all rfl
  have read := readLine_bindName_of_unreserved named plain d
  have trimmed : Text.trim "0".toList = "0".toList := by decide
  have refused : d.bindings.bind name ⟨.zero false, .zero false⟩ =
      .error (.alreadyBound name ⟨.zero false, .zero false⟩) := by rw [Bindings.bind, bound]
  rw [trimmed, Argument.value_zero, List.append_assoc] at read
  refine read.trans ?_
  change (d.bindings.bind name ⟨.zero false, .zero false⟩ >>= _) = _
  rw [refused]
  rfl

def referenceTo (name : Text) : Text := "point @".toList ++ name

def rebinding (name : Text) : Text := "variable ".toList ++ (name ++ ", 0".toList)

/-- A bound name can be referred to with its value and cannot be bound again, and this holds for
good. -/
theorem bound_for_good {source name : Text} {value : Coordinate} {d : Diagram}
    (read : ofSource source = .ok d) (bound : d.bindings.find? name = some value) :
    ofSource (source ++ '\n' :: referenceTo name) =
        .ok { d with points := d.points ++ [⟨value, none⟩] } ∧
      ofSource (source ++ '\n' :: rebinding name) =
        .error ⟨(Text.lines (source ++ '\n' :: rebinding name)).length, rebinding name,
          .alreadyBound name ⟨.zero false, .zero false⟩⟩ ∧
      ∀ more later, ofSource (source ++ '\n' :: more) = .ok later →
        later.bindings.find? name = some value ∧
          ∃ added, later.bindings.entries = d.bindings.entries ++ added ∧
            ∀ other, (name, other) ∉ added := by
  have named := isName_of_bound read bound
  refine ⟨?_, ?_, ?_⟩
  · have single : '\n' ∉ "point @".toList ++ name := by
      rw [List.mem_append, not_or]
      exact ⟨by decide, named.single⟩
    have outcome := ofSource_line read single (List.cons_ne_nil _ _)
    rw [readLine_reference named bound] at outcome
    exact outcome
  · have single : '\n' ∉ "variable ".toList ++ (name ++ ", 0".toList) := by
      simp only [List.mem_append, not_or]
      exact ⟨by decide, named.single, by decide⟩
    have outcome := ofSource_line read single (List.cons_ne_nil _ _)
    rw [readLine_rebinding named bound] at outcome
    exact outcome
  · intro more later read'
    rw [ofSource_feed read] at read'
    obtain ⟨records, tells, rfl⟩ := readLines_eq_ok_iff.mp read'
    refine ⟨Bindings.find?_after bound records, _, rfl, fun other member => ?_⟩
    exact not_mem_of_tells tells bound other (Record.mem_of_mem_bindings member)

theorem quoted_name_bound_for_good :
    ofSource ("variable \"a, b\" \\%, 1".toList ++ '\n' :: referenceTo "\"a, b\" \\%".toList) =
        .ok { empty with
          points := [⟨⟨.one, .zero false⟩, none⟩]
          bindings := ⟨[("\"a, b\" \\%".toList, ⟨.one, .zero false⟩)]⟩ } ∧
      ∃ number, ofSource
        ("variable \"a, b\" \\%, 1".toList ++ '\n' :: rebinding "\"a, b\" \\%".toList) =
          .error ⟨number, rebinding "\"a, b\" \\%".toList,
            .alreadyBound "\"a, b\" \\%".toList ⟨.zero false, .zero false⟩⟩ := by
  have read : ofSource "variable \"a, b\" \\%, 1".toList =
      .ok { empty with
        bindings := ⟨[("\"a, b\" \\%".toList, ⟨.one, .zero false⟩)]⟩ } := by decide +kernel
  have bound : Bindings.find? ⟨[("\"a, b\" \\%".toList, ⟨.one, .zero false⟩)]⟩
      "\"a, b\" \\%".toList = some ⟨.one, .zero false⟩ := List.lookup_cons_self
  obtain ⟨referred, refused, _⟩ := bound_for_good read bound
  exact ⟨referred, _, refused⟩

end Diagram
end DiagramScript
