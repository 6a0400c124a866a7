import DiagramScript.Program.Session
import DiagramScript.Proofs.Script.Lines
import DiagramScript.Proofs.Script.Records

/-! Sources that are cut behind a line. The first line that is refused decides the outcome, so a
failure stays the same whatever follows, and a success is a step towards every longer success.
Main statement: `Diagram.fails_fast`. -/
namespace DiagramScript

namespace Text

/-- No line is left open at the end of a source. -/
def EndsLine (source : Text) : Prop := source = [] ∨ ∃ init, source = init ++ ['\n']

theorem lines_append {source : Text} (closed : source.EndsLine) (more : Text) :
    lines (source ++ more) = lines source ++ lines more := by
  rcases closed with rfl | ⟨init, rfl⟩
  · rfl
  · rw [List.append_assoc]
    exact lines_append_feed init more

end Text

namespace Diagram

/-- Nothing is taken back: annotations stay in front of those that are added, and names keep their
values. -/
structure GrowsTo (d next : Diagram) : Prop where
  points : d.points <+: next.points
  segments : d.segments <+: next.segments
  circles : d.circles <+: next.circles
  labels : d.labels <+: next.labels
  bindings : ∀ {name value}, d.bindings.find? name = some value →
    next.bindings.find? name = some value

theorem growsTo_after (d : Diagram) (records : List Record) : d.GrowsTo (d.after records) where
  points := List.prefix_append _ _
  segments := List.prefix_append _ _
  circles := List.prefix_append _ _
  labels := List.prefix_append _ _
  bindings bound := Bindings.find?_after bound records

theorem growsTo_of_readLines {number : Nat} {d next : Diagram} {lines : List Text}
    (read : d.readLines number lines = .ok next) : d.GrowsTo next := by
  obtain ⟨records, _, rfl⟩ := readLines_eq_ok_iff.mp read
  exact growsTo_after d records

/-- A run fails at a line exactly when the lines before it are read and this one is refused. What
follows the line is not asked for. -/
theorem readLines_eq_error_iff {number : Nat} {d : Diagram} {lines : List Text}
    {error : LineError} :
    d.readLines number lines = .error error ↔
      ∃ before after middle, lines = before ++ error.source :: after ∧
        error.line = number + before.length ∧ d.readLines number before = .ok middle ∧
        middle.readLine error.source = .error error.error := by
  constructor
  · intro failed
    induction lines generalizing number d with
    | nil => cases failed
    | cons line lines ih =>
      rw [readLines] at failed
      cases here : d.readLine line with
      | error cause =>
        rw [here] at failed
        cases failed
        exact ⟨[], lines, d, rfl, rfl, rfl, here⟩
      | ok next =>
        rw [here] at failed
        obtain ⟨before, after, middle, rfl, same, read, refused⟩ := ih failed
        refine ⟨line :: before, after, middle, rfl, ?_, ?_, refused⟩
        · rw [same, List.length_cons, Nat.add_right_comm, Nat.add_assoc]
        · rw [readLines, here]
          exact read
  · rintro ⟨before, after, middle, rfl, same, read, refused⟩
    -- The lines before are read, and with that the run has come to the refused one.
    rw [readLines_append, read]
    show middle.readLines (number + before.length) (error.source :: after) = .error error
    rw [readLines, refused, ← same]

theorem ofSource_append {source : Text} (closed : source.EndsLine) (more : Text) :
    ofSource (source ++ more) =
      ofSource source >>= fun d => d.readLines (1 + source.lines.length) more.lines := by
  rw [ofSource, Text.lines_append closed, readLines_append]
  rfl

theorem getElem?_of_ofSource_error {source : Text} {error : LineError}
    (failed : ofSource source = .error error) :
    1 ≤ error.line ∧ error.line ≤ source.lines.length ∧
      source.lines[error.line - 1]? = some error.source := by
  obtain ⟨before, after, _, split, same, _⟩ := readLines_eq_error_iff.mp failed
  rw [split, same, Nat.add_sub_cancel_left]
  refine ⟨Nat.le_add_right _ _, ?_, by simp⟩
  rw [List.length_append, List.length_cons]
  omega

theorem ofSource_error_of_take {source other : Text} {error : LineError}
    (failed : ofSource source = .error error)
    (same : other.lines.take error.line = source.lines.take error.line) :
    ofSource other = .error error := by
  obtain ⟨before, after, middle, split, number, read, refused⟩ := readLines_eq_error_iff.mp failed
  have reached : source.lines.take error.line = before ++ [error.source] := by
    rw [split, number, Nat.add_comm, List.take_length_add_append]
    rfl
  refine readLines_eq_error_iff.mpr
    ⟨before, other.lines.drop error.line, middle, ?_, number, read, refused⟩
  calc other.lines
      = other.lines.take error.line ++ other.lines.drop error.line :=
        (List.take_append_drop _ _).symm
    _ = before ++ error.source :: other.lines.drop error.line := by
        rw [same, reached, List.append_assoc, List.singleton_append]

theorem effects_of_ofSource_error {source : Text} {error : LineError}
    (failed : ofSource source = .error error) {Path : Type} (logFile : Path) (time : String) :
    Session.effects logFile time (.ok source) =
        Session.report logFile time error.message.toList ∧
      (Session.effects logFile time (.ok source)).output = [] := by
  have answered : Session.answer source = .error error.message.toList := by
    rw [Session.answer, failed]
  have reported : Session.effects logFile time (.ok source) =
      Session.report logFile time error.message.toList := by
    rw [Session.effects, Except.bind, answered]
  exact ⟨reported, by rw [reported]; rfl⟩

/-- A source that is cut behind a line decides the outcome by its first refused line. If it fails,
so does whatever it is continued to, with the same error; if a continuation is accepted or fails
later, it is accepted, and its diagram only grows. The error is about the line that it names, and
it is what is reported. -/
theorem fails_fast :
    (∀ source more : Text, source.EndsLine →
      (∀ error, ofSource source = .error error → ofSource (source ++ more) = .error error) ∧
      (∀ d, ofSource (source ++ more) = .ok d →
        ∃ before, ofSource source = .ok before ∧ before.GrowsTo d) ∧
      ∀ error, ofSource (source ++ more) = .error error → source.lines.length < error.line →
        ∃ before, ofSource source = .ok before) ∧
    ∀ (source : Text) (error : LineError), ofSource source = .error error →
      (1 ≤ error.line ∧ source.lines[error.line - 1]? = some error.source) ∧
      (∀ other : Text, other.lines.take error.line = source.lines.take error.line →
        ofSource other = .error error) ∧
      ∀ (Path : Type) (logFile : Path) (time : String),
        Session.effects logFile time (.ok source) =
            Session.report logFile time error.message.toList ∧
          (Session.effects logFile time (.ok source)).output = [] := by
  constructor
  · intro source more closed
    have onward := ofSource_append closed more
    have stays (error) (failed : ofSource source = .error error) :
        ofSource (source ++ more) = .error error := by
      rw [onward, failed]
      rfl
    refine ⟨stays, ?_, ?_⟩
    · intro d read
      rw [onward, bind_eq_ok_iff] at read
      obtain ⟨before, read_source, read_more⟩ := read
      exact ⟨before, read_source, growsTo_of_readLines read_more⟩
    · intro error failed beyond
      cases outcome : ofSource source with
      | ok before => exact ⟨before, rfl⟩
      | error early =>
        -- The error would be the early one, which is about a line of the source.
        rw [stays early outcome] at failed
        cases failed
        exact absurd (getElem?_of_ofSource_error outcome).2.1 (Nat.not_le_of_lt beyond)
  · intro source error failed
    obtain ⟨counted, _, line⟩ := getElem?_of_ofSource_error failed
    exact ⟨⟨counted, line⟩, fun other => ofSource_error_of_take failed,
      fun _ => effects_of_ofSource_error failed⟩

theorem refused_line_stays_refused :
    ofSource ("point 1\r\nfoo 2\r\n".toList ++ "circle 3".toList) =
        .error ⟨2, "foo 2".toList, .unknownCommand "foo".toList⟩ ∧
      ofSource "point 1\nfoo 2\nbar".toList =
        .error ⟨2, "foo 2".toList, .unknownCommand "foo".toList⟩ ∧
      (Session.effects "log.txt".toList "now" (.ok "point 1\r\nfoo 2\r\n".toList)).output = [] ∧
      ∃ before, ofSource "point 1\r\n".toList = .ok before ∧
        before.GrowsTo { empty with
          points := [⟨⟨.one, .zero false⟩, none⟩]
          circles := [⟨.one + .one + .one, none⟩] } := by
  have failed : ofSource "point 1\r\nfoo 2\r\n".toList =
      .error ⟨2, "foo 2".toList, .unknownCommand "foo".toList⟩ := by decide +kernel
  have read : ofSource ("point 1\r\n".toList ++ "circle 3".toList) =
      .ok { empty with
        points := [⟨⟨.one, .zero false⟩, none⟩]
        circles := [⟨.one + .one + .one, none⟩] } := by decide +kernel
  have closed : Text.EndsLine "point 1\r\nfoo 2\r\n".toList :=
    .inr ⟨"point 1\r\nfoo 2\r".toList, by decide⟩
  have closed' : Text.EndsLine "point 1\r\n".toList := .inr ⟨"point 1\r".toList, by decide⟩
  obtain ⟨_, same_lines, reported⟩ := fails_fast.2 _ _ failed
  exact ⟨(fails_fast.1 _ _ closed).1 _ failed, same_lines _ (by decide), (reported _ _ _).2,
    (fails_fast.1 _ _ closed').2.1 _ read⟩

end Diagram
end DiagramScript
