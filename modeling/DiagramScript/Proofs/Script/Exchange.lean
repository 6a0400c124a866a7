import DiagramScript.Proofs.Script.Contents
import DiagramScript.Proofs.Script.Lookups

/-! Neighbouring lines that can be exchanged. Two commands of different kinds add to different parts
of a diagram, and two bindings commute, as long as the second one does not refer to the name that
the first one binds: `Diagram.exchange_of_independent`. -/
namespace DiagramScript

/-- The second statement does not depend on the first one, nor on being behind it. -/
structure Independent (first second : Statement) : Prop where
  commands : first.command ≠ second.command ∨
    first.command = Command.bindName.name ∧ second.command = Command.bindName.name
  references : ∀ argument ∈ second.arguments, ∀ name,
    Argument.reference? argument = some name → first.binds? ≠ some name

namespace Record

def command : Record → Command
  | .xRange _ _ => .xRange
  | .yRange _ _ => .yRange
  | .xInterval _ => .xInterval
  | .yInterval _ => .yInterval
  | .binding _ _ => .bindName
  | .point _ => .point
  | .segment _ => .line
  | .label _ => .text
  | .circle _ => .circle

theorem parts_eq_none (record : Record) :
    (record.command ≠ .xRange → record.xRange? = none) ∧
      (record.command ≠ .yRange → record.yRange? = none) ∧
      (record.command ≠ .xInterval → record.xInterval? = none) ∧
      (record.command ≠ .yInterval → record.yInterval? = none) ∧
      (record.command ≠ .point → record.point? = none) ∧
      (record.command ≠ .line → record.segment? = none) ∧
      (record.command ≠ .text → record.label? = none) ∧
      (record.command ≠ .circle → record.circle? = none) := by
  cases record <;> simp [command, xRange?, yRange?, xInterval?, yInterval?, point?, segment?,
    label?, circle?]

theorem filterMap_swap {α : Type} {part : Record → Option α} {command : Command}
    (only : ∀ record, record.command ≠ command → part record = none) {first second : Record}
    (apart : first.command ≠ command ∨ second.command ≠ command) (before after : List Record) :
    (before ++ second :: first :: after).filterMap part =
      (before ++ first :: second :: after).filterMap part := by
  simp only [List.filterMap_append, List.filterMap_cons]
  rcases apart with other | other
  · rw [only first other]
  · rw [only second other]

end Record

theorem Says.command {bindings : Bindings} {statement : Statement} {record : Record}
    (meaning : Says bindings statement record) : statement.command = record.command.name := by
  cases meaning <;> rfl

theorem Says.apart {bindings : Bindings} {statement : Statement} {first second : Record}
    (meaning : Says (bindings.after [first]) statement second) (name : Text)
    (value value' : Coordinate) (bound : first = .binding name value) :
    second ≠ .binding name value' := by
  rintro rfl
  have free := meaning.free
  rw [bound, Bindings.find?_after_eq] at free
  simp [Record.binding?] at free

theorem says_exchange {bindings : Bindings} {a b : Statement} {ra rb : Record}
    (independent : Independent a b) (first : Says bindings a ra)
    (second : Says (bindings.after [ra]) b rb) :
    Says bindings b rb ∧ Says (bindings.after [rb]) a ra := by
  constructor
  · -- No name that the second statement looks up has been bound by the first one.
    refine second.transfer ?_ ?_
    · intro argument member name value refers found
      have other : ∀ value, ra ≠ .binding name value := by
        rintro value rfl
        exact independent.references argument member name refers first.binds
      rwa [Bindings.find?_after_of_other other] at found
    · rintro name value rfl
      exact Bindings.find?_of_after_eq_none second.free
  · -- The first statement finds what it found, and its own name has not been bound by the second.
    refine first.transfer ?_ ?_
    · exact fun _ _ _ _ _ found => Bindings.find?_after found [rb]
    · rintro name value rfl
      rw [Bindings.find?_after_of_other fun value' => second.apart name value value' rfl]
      exact first.free

theorem tells_exchange {bindings : Bindings} {a b : Statement} {line_a line_b : Text}
    {before after : List Text} {records : List Record} (independent : Independent a b)
    (read_a : Statement.ofLine line_a = .ok a) (read_b : Statement.ofLine line_b = .ok b)
    (tells : Tells bindings (before ++ line_a :: line_b :: after) records) :
    ∃ early ra rb late, records = early ++ ra :: rb :: late ∧
      Tells bindings (before ++ line_b :: line_a :: after) (early ++ rb :: ra :: late) ∧
      a.command = ra.command.name ∧ b.command = rb.command.name ∧
      ∀ name value value', ra = .binding name value → rb ≠ .binding name value' := by
  obtain ⟨early, late, rfl, told, onward⟩ := tells_append.mp tells
  cases onward with
  | @cons _ _ _ ra _ _ read first onward =>
    cases onward with
    | @cons _ _ _ rb _ late read' second onward =>
      cases read.symm.trans read_a
      cases read'.symm.trans read_b
      obtain ⟨second', first'⟩ := says_exchange independent first second
      refine ⟨early, ra, rb, late, rfl, ?_, first.command, second.command, second.apart⟩
      refine tells_append.mpr ⟨early, rb :: ra :: late, rfl, told, ?_⟩
      refine .cons read_b second' (.cons read_a first' ?_)
      rw [Bindings.after_after] at onward ⊢
      exact tells_congr (fun name => (Bindings.find?_after_swap _ second.apart name).symm) onward

namespace Diagram

/-- The same diagram, up to the order in which names were bound. -/
structure SameParts (d e : Diagram) : Prop where
  xAxis : e.xAxis = d.xAxis
  yAxis : e.yAxis = d.yAxis
  points : e.points = d.points
  segments : e.segments = d.segments
  circles : e.circles = d.circles
  labels : e.labels = d.labels
  entries : e.bindings.entries.Perm d.bindings.entries
  names : ∀ name, e.bindings.find? name = d.bindings.find? name

theorem SameParts.agrees {d e : Diagram} (same : d.SameParts e) (other : Diagram) :
    e.agrees other = d.agrees other ∧ other.agrees e = other.agrees d := by
  have size : e.bindings.size = d.bindings.size := same.entries.length_eq
  have left : e.bindings.agrees other.bindings = d.bindings.agrees other.bindings := by
    rw [Bindings.agrees, Bindings.agrees, size, same.entries.all_eq]
  have right : other.bindings.agrees e.bindings = other.bindings.agrees d.bindings := by
    simp only [Bindings.agrees, size, same.names]
  constructor
  · simp only [Diagram.agrees, same.xAxis, same.yAxis, same.points, same.segments, same.circles,
      same.labels, left]
  · simp only [Diagram.agrees, same.xAxis, same.yAxis, same.points, same.segments, same.circles,
      same.labels, right]

theorem sameParts_of_swap (d : Diagram) {first second : Record} (early late : List Record)
    (kinds : first.command ≠ second.command ∨
      first.command = .bindName ∧ second.command = .bindName)
    (apart : ∀ name value value', first = .binding name value → second ≠ .binding name value') :
    (d.after (early ++ first :: second :: late)).SameParts
      (d.after (early ++ second :: first :: late)) := by
  have swap {α : Type} {part : Record → Option α} {command : Command}
      (other : command ≠ .bindName)
      (only : ∀ record, record.command ≠ command → part record = none) :
      (early ++ second :: first :: late).filterMap part =
        (early ++ first :: second :: late).filterMap part := by
    refine Record.filterMap_swap only ?_ early late
    by_cases here : first.command = command
    · refine .inr fun there => ?_
      rcases kinds with differ | ⟨bound, _⟩
      · exact differ (here.trans there.symm)
      · exact other (here.symm.trans bound)
    · exact .inl here
  have xRange := swap (by decide) fun record => record.parts_eq_none.1
  have yRange := swap (by decide) fun record => record.parts_eq_none.2.1
  have xInterval := swap (by decide) fun record => record.parts_eq_none.2.2.1
  have yInterval := swap (by decide) fun record => record.parts_eq_none.2.2.2.1
  have points := swap (by decide) fun record => record.parts_eq_none.2.2.2.2.1
  have segments := swap (by decide) fun record => record.parts_eq_none.2.2.2.2.2.1
  have labels := swap (by decide) fun record => record.parts_eq_none.2.2.2.2.2.2.1
  have circles := swap (by decide) fun record => record.parts_eq_none.2.2.2.2.2.2.2
  have order : (early ++ second :: first :: late).Perm (early ++ first :: second :: late) :=
    (List.Perm.swap first second late).append_left early
  constructor
  · simp only [after, xRange, xInterval]
  · simp only [after, yRange, yInterval]
  · simp only [after, points]
  · simp only [after, segments]
  · simp only [after, circles]
  · simp only [after, labels]
  · exact (order.filterMap Record.binding?).append_left d.bindings.entries
  · intro name
    have split (x y : Record) : d.bindings.after (early ++ x :: y :: late) =
        ((d.bindings.after early).after [x, y]).after late := by
      simp only [Bindings.after_after, List.append_assoc, List.cons_append, List.nil_append]
    simp only [after, split]
    exact Bindings.find?_after_congr (Bindings.find?_after_swap _ apart) late name

/-- Two lines of a source with nothing between them but silent lines. -/
structure Neighbours (before first gap second after : Text) : Prop where
  start : before.EndsLine
  single : '\n' ∉ first
  ends : gap.EndOfLine
  closed : ∃ init, gap = init ++ ['\n']
  silent : ∀ line ∈ gap.lines, content line = []
  single' : '\n' ∉ second
  finish : after.EndOfLine

theorem said_of_neighbours {before first gap second after : Text}
    (placed : Neighbours before first gap second after) :
    ∃ early late, ∀ a b : Text, '\n' ∉ a → '\n' ∉ b → content a ≠ [] → content b ≠ [] →
      said (before ++ (a ++ (gap ++ (b ++ after)))).lines =
        early ++ content a :: content b :: late := by
  obtain ⟨init, rfl⟩ := placed.closed
  obtain ⟨between, behind_gap⟩ := exists_contents_behind placed.ends
  obtain ⟨later, behind_second⟩ := exists_contents_behind placed.finish
  have some : init ++ ['\n'] ≠ [] := List.append_ne_nil_of_right_ne_nil _ (List.cons_ne_nil _ _)
  have silent : ∀ said ∈ between, said = [] := by
    intro said member
    have inside : said ∈ contents (init ++ ['\n']) := by
      have whole := behind_gap [] List.not_mem_nil fun _ => some
      rw [List.nil_append] at whole
      exact whole ▸ List.mem_cons_of_mem _ member
    obtain ⟨line, line_member, rfl⟩ := List.mem_map.mp inside
    exact placed.silent line line_member
  refine ⟨(contents before).filter (· ≠ []), later.filter (· ≠ []), ?_⟩
  intro a b single_a single_b said_a said_b
  have closed : (before ++ (a ++ (init ++ ['\n']))).EndsLine :=
    .inr ⟨before ++ (a ++ init), by simp⟩
  have some_b : b = [] → after ≠ [] := by
    rintro rfl
    exact absurd rfl said_b
  have whole : contents (before ++ (a ++ (init ++ ['\n'] ++ (b ++ after)))) =
      contents before ++ (content a :: between) ++ (content b :: later) := by
    rw [← behind_gap a single_a fun _ => some, ← behind_second b single_b some_b,
      ← contents_append placed.start, ← contents_append closed]
    simp
  have skipped : between.filter (· ≠ []) = [] := by simpa using silent
  rw [said_lines, whole]
  simp only [List.filter_append, List.filter_cons, skipped]
  simp [said_a, said_b]

def Commands (line : Text) (statement : Statement) : Prop :=
  content line ≠ [] ∧ Statement.ofLine (content line) = .ok statement

/-- Neighbouring lines that are independent can be exchanged. The source is accepted still, and it
gives the same diagram. -/
theorem exchange_of_independent {before first gap second after : Text} {a b : Statement}
    {d : Diagram} (parsed : ofSource (before ++ (first ++ (gap ++ (second ++ after)))) = .ok d)
    (placed : Neighbours before first gap second after) (command_a : Commands first a)
    (command_b : Commands second b) (independent : Independent a b) :
    ∃ e, ofSource (before ++ (second ++ (gap ++ (first ++ after)))) = .ok e ∧ d.SameParts e ∧
      ∀ other : Diagram, e.agrees other = d.agrees other ∧ other.agrees e = other.agrees d := by
  obtain ⟨early, late, said_eq⟩ := said_of_neighbours placed
  have said := said_eq first second placed.single placed.single' command_a.1 command_b.1
  have said' := said_eq second first placed.single' placed.single command_b.1 command_a.1
  obtain ⟨records, tells, rfl⟩ := readLines_eq_ok_iff.mp parsed
  rw [said] at tells
  obtain ⟨first_records, ra, rb, last_records, rfl, exchanged, name_a, name_b, apart⟩ :=
    tells_exchange independent command_a.2 command_b.2 tells
  have kinds : ra.command ≠ rb.command ∨ ra.command = .bindName ∧ rb.command = .bindName := by
    rw [← Command.name_injective.ne_iff, ← Command.name_injective.eq_iff,
      ← Command.name_injective.eq_iff, ← name_a, ← name_b]
    exact independent.commands
  have same := sameParts_of_swap empty first_records last_records kinds apart
  refine ⟨_, readLines_eq_ok_iff.mpr ⟨_, ?_, rfl⟩, same, same.agrees⟩
  rwa [said']

theorem exchange_of_bindings :
    ∃ d e : Diagram,
      ofSource "variable y, 2\nvariable x, 1\r\n% x\nvariable z, @y\npoint @x".toList = .ok d ∧
      ofSource "variable y, 2\nvariable z, @y\r\n% x\nvariable x, 1\npoint @x".toList = .ok e ∧
      d.SameParts e := by
  have placed : Neighbours "variable y, 2\n".toList "variable x, 1".toList "\r\n% x\n".toList
      "variable z, @y".toList "\npoint @x".toList :=
    { start := .inr ⟨"variable y, 2".toList, rfl⟩
      single := by decide
      ends := .inr ⟨"% x\n".toList, .inr rfl⟩
      closed := ⟨"\r\n% x".toList, rfl⟩
      silent := by decide +kernel
      single' := by decide
      finish := .inr ⟨"point @x".toList, .inl rfl⟩ }
  have first : Commands "variable x, 1".toList
      ⟨"variable".toList, ["x".toList, "1".toList], none⟩ := by
    constructor <;> decide +kernel
  have second : Commands "variable z, @y".toList
      ⟨"variable".toList, ["z".toList, "@y".toList], none⟩ := by
    constructor <;> decide +kernel
  have independent : Independent ⟨"variable".toList, ["x".toList, "1".toList], none⟩
      ⟨"variable".toList, ["z".toList, "@y".toList], none⟩ := by
    refine ⟨.inr ⟨rfl, rfl⟩, ?_⟩
    simp only [List.forall_mem_cons]
    refine ⟨by decide +kernel, ?_, List.forall_mem_nil _⟩
    intro name refers binds
    have name_y : Argument.reference? "@y".toList = some "y".toList := by decide +kernel
    cases name_y.symm.trans refers
    exact absurd binds (by decide +kernel)
  have parsed : ofSource ("variable y, 2\n".toList ++ ("variable x, 1".toList ++
      ("\r\n% x\n".toList ++ ("variable z, @y".toList ++ "\npoint @x".toList)))) =
      .ok { empty with
        points := [⟨⟨.one, .zero false⟩, none⟩]
        bindings := ⟨[("y".toList, ⟨.one + .one, .zero false⟩), ("x".toList, ⟨.one, .zero false⟩),
          ("z".toList, ⟨.one + .one, .zero false⟩)]⟩ } := by decide +kernel
  obtain ⟨e, exchanged, same, _⟩ :=
    exchange_of_independent parsed placed first second independent
  exact ⟨_, e, parsed, exchanged, same⟩

end Diagram
end DiagramScript
