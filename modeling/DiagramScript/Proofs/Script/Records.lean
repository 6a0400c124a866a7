import DiagramScript.Proofs.Outcome
import DiagramScript.Script.Run

/-! What the lines of a source say, one record for each line that says something. A command changes
its own part of a diagram and nothing else, so a diagram is its records put in order:
`Diagram.ofSource_eq_ok_iff`. -/
namespace DiagramScript

inductive Record where
  | xRange (first last : Binary64)
  | yRange (first last : Binary64)
  | xInterval (interval : Binary64)
  | yInterval (interval : Binary64)
  | binding (name : Text) (value : Coordinate)
  | point (point : Point)
  | segment (segment : Segment)
  | label (label : Label)
  | circle (circle : Circle)

namespace Record

def xRange? : Record → Option (Binary64 × Binary64)
  | .xRange first last => some (first, last)
  | _ => none

def yRange? : Record → Option (Binary64 × Binary64)
  | .yRange first last => some (first, last)
  | _ => none

def xInterval? : Record → Option Binary64
  | .xInterval interval => some interval
  | _ => none

def yInterval? : Record → Option Binary64
  | .yInterval interval => some interval
  | _ => none

def binding? : Record → Option (Text × Coordinate)
  | .binding name value => some (name, value)
  | _ => none

def point? : Record → Option Point
  | .point p => some p
  | _ => none

def segment? : Record → Option Segment
  | .segment s => some s
  | _ => none

def label? : Record → Option Label
  | .label l => some l
  | _ => none

def circle? : Record → Option Circle
  | .circle c => some c
  | _ => none

def isAxis : Record → Bool
  | .xRange _ _ | .yRange _ _ | .xInterval _ | .yInterval _ => true
  | _ => false

theorem length_eq (records : List Record) :
    records.length =
      (records.filterMap point?).length + (records.filterMap segment?).length +
        (records.filterMap circle?).length + (records.filterMap label?).length +
        (records.filterMap binding?).length + records.countP isAxis := by
  induction records with
  | nil => rfl
  | cons record records ih =>
    cases record <;>
      simp only [List.filterMap_cons, List.countP_cons, List.length_cons, point?, segment?,
        circle?, label?, binding?, isAxis] <;> simp <;> omega

theorem mem_of_mem_bindings {records : List Record} {name : Text} {value : Coordinate}
    (member : (name, value) ∈ records.filterMap binding?) : .binding name value ∈ records := by
  obtain ⟨record, member, same⟩ := List.mem_filterMap.mp member
  cases record <;> cases same
  exact member

end Record

def Bindings.after (bindings : Bindings) (records : List Record) : Bindings :=
  ⟨bindings.entries ++ records.filterMap Record.binding?⟩

/-- What a statement says when its names are looked up in the given bindings. -/
inductive Says (bindings : Bindings) : Statement → Record → Prop
  | xRange {first last color? x y} :
      Argument.number first = .ok x → Argument.number last = .ok y →
      Says bindings ⟨Command.xRange.name, [first, last], color?⟩ (.xRange x y)
  | yRange {first last color? x y} :
      Argument.number first = .ok x → Argument.number last = .ok y →
      Says bindings ⟨Command.yRange.name, [first, last], color?⟩ (.yRange x y)
  | xInterval {interval color? x} : Argument.number interval = .ok x →
      Says bindings ⟨Command.xInterval.name, [interval], color?⟩ (.xInterval x)
  | yInterval {interval color? x} : Argument.number interval = .ok x →
      Says bindings ⟨Command.yInterval.name, [interval], color?⟩ (.yInterval x)
  | binding {name value color? place} :
      Argument.coordinate bindings value = .ok place → bindings.find? name = none →
      Says bindings ⟨Command.bindName.name, [name, value], color?⟩ (.binding name place)
  | point {place color? p} : Argument.coordinate bindings place = .ok p →
      Says bindings ⟨Command.point.name, [place], color?⟩ (.point ⟨p, color?⟩)
  | segment {start finish color? p q} :
      Argument.coordinate bindings start = .ok p → Argument.coordinate bindings finish = .ok q →
      Says bindings ⟨Command.line.name, [start, finish], color?⟩ (.segment ⟨p, q, color?⟩)
  | label {place words color? p} : Argument.coordinate bindings place = .ok p →
      Says bindings ⟨Command.text.name, [place, words], color?⟩
        (.label ⟨p, Argument.label words, color?.getD Color.black⟩)
  | circle {radius color? x} : Argument.number radius = .ok x →
      Says bindings ⟨Command.circle.name, [radius], color?⟩ (.circle ⟨x, color?⟩)

/-- The records of lines, each line being read with the bindings of the lines before it. -/
inductive Tells : Bindings → List Text → List Record → Prop
  | nil {bindings} : Tells bindings [] []
  | cons {bindings line statement record lines records} :
      Statement.ofLine line = .ok statement → Says bindings statement record →
      Tells (bindings.after [record]) lines records →
      Tells bindings (line :: lines) (record :: records)

theorem Bindings.bind_eq_ok_iff {bindings next : Bindings} {name : Text} {value : Coordinate} :
    bindings.bind name value = .ok next ↔
      bindings.find? name = none ∧ next = ⟨bindings.entries ++ [(name, value)]⟩ := by
  rw [Bindings.bind]
  cases bindings.find? name with
  | some _ => simp
  | none => simp [eq_comm]

theorem Bindings.after_nil (bindings : Bindings) : bindings.after [] = bindings := by
  simp [Bindings.after]

theorem Bindings.after_after (bindings : Bindings) (first others : List Record) :
    (bindings.after first).after others = bindings.after (first ++ others) := by
  simp [Bindings.after]

theorem Bindings.find?_after {bindings : Bindings} {name : Text} {value : Coordinate}
    (bound : bindings.find? name = some value) (records : List Record) :
    (bindings.after records).find? name = some value := by
  rw [find?] at bound
  rw [find?, after, List.lookup_append, bound, Option.some_or]

theorem tells_iff_getElem? {bindings : Bindings} {lines : List Text} {records : List Record} :
    Tells bindings lines records ↔
      records.length = lines.length ∧ ∀ (i : Nat) line record,
        lines[i]? = some line → records[i]? = some record →
          ∃ statement, Statement.ofLine line = .ok statement ∧
            Says (bindings.after (records.take i)) statement record := by
  constructor
  · intro tells
    induction tells with
    | nil => exact ⟨rfl, fun i line record here => absurd here (by simp)⟩
    | @cons bindings line statement record lines records read meaning _ ih =>
      obtain ⟨same, each⟩ := ih
      refine ⟨by rw [List.length_cons, List.length_cons, same], ?_⟩
      intro i line' record' here here'
      cases i with
      | zero =>
        rw [List.getElem?_cons_zero, Option.some.injEq] at here here'
        subst here here'
        exact ⟨statement, read, by rwa [List.take_zero, Bindings.after_nil]⟩
      | succ i =>
        obtain ⟨statement', read', meaning'⟩ := each i line' record' here here'
        rw [Bindings.after_after] at meaning'
        exact ⟨statement', read', meaning'⟩
  · rintro ⟨same, each⟩
    induction lines generalizing bindings records with
    | nil =>
      rw [List.length_eq_zero_iff.mp same]
      exact .nil
    | cons line lines ih =>
      rcases records with _ | ⟨record, records⟩
      · cases same
      · obtain ⟨statement, read, meaning⟩ := each 0 line record rfl rfl
        rw [List.take_zero, Bindings.after_nil] at meaning
        refine .cons read meaning (ih (Nat.succ.inj same) fun i line' record' here here' => ?_)
        rw [Bindings.after_after]
        exact each (i + 1) line' record' here here'

namespace Command

theorem ofName?_name (command : Command) : ofName? command.name = some command := by
  cases command <;> rfl

theorem name_of_ofName? {word : Text} {command : Command}
    (known : ofName? word = some command) : word = command.name := by
  have found := List.find?_some known
  exact (beq_iff_eq.mp found).symm

theorem name_injective : Function.Injective name := by
  intro first second same
  have known : ofName? first.name = ofName? second.name := congrArg ofName? same
  simpa [ofName?_name] using known

end Command

namespace Diagram

def axisAfter (axis : Axis) (ranges : List (Binary64 × Binary64)) (intervals : List Binary64) :
    Axis where
  first := (ranges.getLastD (axis.first, axis.last)).1
  last := (ranges.getLastD (axis.first, axis.last)).2
  interval := intervals.getLastD axis.interval

def after (d : Diagram) (records : List Record) : Diagram where
  xAxis := axisAfter d.xAxis (records.filterMap Record.xRange?)
    (records.filterMap Record.xInterval?)
  yAxis := axisAfter d.yAxis (records.filterMap Record.yRange?)
    (records.filterMap Record.yInterval?)
  points := d.points ++ records.filterMap Record.point?
  segments := d.segments ++ records.filterMap Record.segment?
  circles := d.circles ++ records.filterMap Record.circle?
  labels := d.labels ++ records.filterMap Record.label?
  bindings := d.bindings.after records

theorem after_nil (d : Diagram) : d.after [] = d := by
  simp [after, axisAfter, Bindings.after]

theorem getLastD_append {α : Type} (first others : List α) (last : α) :
    (first ++ others).getLastD last = others.getLastD (first.getLastD last) := by
  induction first generalizing last with
  | nil => rfl
  | cons value first ih => rw [List.cons_append, List.getLastD_cons, List.getLastD_cons, ih]

theorem after_after (d : Diagram) (first others : List Record) :
    (d.after first).after others = d.after (first ++ others) := by
  simp only [after, axisAfter, Bindings.after_after, List.filterMap_append, List.append_assoc,
    getLastD_append]

def add (d : Diagram) : Record → Diagram
  | .xRange first last => { d with xAxis := { d.xAxis with first, last } }
  | .yRange first last => { d with yAxis := { d.yAxis with first, last } }
  | .xInterval interval => { d with xAxis := { d.xAxis with interval } }
  | .yInterval interval => { d with yAxis := { d.yAxis with interval } }
  | .binding name value =>
    { d with bindings := ⟨d.bindings.entries ++ [(name, value)]⟩ }
  | .point p => { d with points := d.points ++ [p] }
  | .segment s => { d with segments := d.segments ++ [s] }
  | .label l => { d with labels := d.labels ++ [l] }
  | .circle c => { d with circles := d.circles ++ [c] }

theorem after_singleton (d : Diagram) (record : Record) : d.after [record] = d.add record := by
  cases record <;>
    simp [after, axisAfter, add, Bindings.after, List.filterMap_cons, Record.xRange?,
      Record.yRange?, Record.xInterval?, Record.yInterval?, Record.binding?, Record.point?,
      Record.segment?, Record.label?, Record.circle?]

theorem perform_name (d : Diagram) (command : Command) (arguments : List Text)
    (color? : Option Color) :
    d.perform ⟨command.name, arguments, color?⟩ = command.apply arguments color? d := by
  simp only [perform, Command.ofName?_name]

theorem apply_eq_ok {command : Command} {arguments : List Text} {color? : Option Color}
    {d next : Diagram} (applied : command.apply arguments color? d = .ok next) :
    ∃ record, Says d.bindings ⟨command.name, arguments, color?⟩ record ∧
      next = d.add record := by
  revert applied
  fun_cases Command.apply command arguments color? d <;> intro applied
  case case1 first last =>
    simp only [bind_eq_ok_iff] at applied
    obtain ⟨x, read, y, read', same⟩ := applied
    cases same
    exact ⟨_, .xRange read read', rfl⟩
  case case2 first last =>
    simp only [bind_eq_ok_iff] at applied
    obtain ⟨x, read, y, read', same⟩ := applied
    cases same
    exact ⟨_, .yRange read read', rfl⟩
  case case3 interval =>
    simp only [bind_eq_ok_iff] at applied
    obtain ⟨x, read, same⟩ := applied
    cases same
    exact ⟨_, .xInterval read, rfl⟩
  case case4 interval =>
    simp only [bind_eq_ok_iff] at applied
    obtain ⟨x, read, same⟩ := applied
    cases same
    exact ⟨_, .yInterval read, rfl⟩
  case case5 name value =>
    simp only [bind_eq_ok_iff] at applied
    obtain ⟨place, read, bindings, bound, same⟩ := applied
    obtain ⟨free, rfl⟩ := Bindings.bind_eq_ok_iff.mp bound
    cases same
    exact ⟨_, .binding read free, rfl⟩
  case case6 place =>
    simp only [bind_eq_ok_iff] at applied
    obtain ⟨p, read, same⟩ := applied
    cases same
    exact ⟨_, .point read, rfl⟩
  case case7 start finish =>
    simp only [bind_eq_ok_iff] at applied
    obtain ⟨p, read, q, read', same⟩ := applied
    cases same
    exact ⟨_, .segment read read', rfl⟩
  case case8 place words =>
    simp only [bind_eq_ok_iff] at applied
    obtain ⟨p, read, same⟩ := applied
    cases same
    exact ⟨_, .label read, rfl⟩
  case case9 radius =>
    simp only [bind_eq_ok_iff] at applied
    obtain ⟨x, read, same⟩ := applied
    cases same
    exact ⟨_, .circle read, rfl⟩
  case case10 => cases applied

/-- A statement is carried out exactly when it says something, and then this is all that
changes. -/
theorem perform_eq_ok_iff {statement : Statement} {d next : Diagram} :
    d.perform statement = .ok next ↔
      ∃ record, Says d.bindings statement record ∧ next = d.add record := by
  constructor
  · intro performed
    rcases statement with ⟨word, arguments, color?⟩
    rw [perform] at performed
    split at performed
    · rename_i command known
      cases Command.name_of_ofName? known
      exact apply_eq_ok performed
    · cases performed
  · rintro ⟨record, meaning, rfl⟩
    cases meaning with
    | xRange read read' => rw [perform_name, Command.apply, read, read']; rfl
    | yRange read read' => rw [perform_name, Command.apply, read, read']; rfl
    | xInterval read => rw [perform_name, Command.apply, read]; rfl
    | yInterval read => rw [perform_name, Command.apply, read]; rfl
    | binding read free =>
      rw [perform_name, Command.apply, read]
      simp only [Bindings.bind, free]
      rfl
    | point read => rw [perform_name, Command.apply, read]; rfl
    | segment read read' => rw [perform_name, Command.apply, read, read']; rfl
    | label read => rw [perform_name, Command.apply, read]; rfl
    | circle read => rw [perform_name, Command.apply, read]; rfl

/-- The lines that say something, without comments and the white space around. -/
def said (lines : List Text) : List Text :=
  (lines.map fun line => (stripComment line.trim).trim).filter (· ≠ [])

theorem said_eq (lines : List Text) : said lines = (lines.map content).filter (· ≠ []) := rfl

theorem readLines_eq_ok_iff {number : Nat} {d next : Diagram} {lines : List Text} :
    d.readLines number lines = .ok next ↔
      ∃ records, Tells d.bindings (said lines) records ∧ next = d.after records := by
  induction lines generalizing number d with
  | nil =>
    constructor
    · intro read
      cases read
      exact ⟨[], .nil, (after_nil _).symm⟩
    · rintro ⟨records, tells, rfl⟩
      cases tells
      rw [after_nil]
      rfl
  | cons line lines ih =>
    by_cases blank : content line = []
    · have skipped : said (line :: lines) = said lines := by simp [said_eq, blank]
      have read : d.readLine line = .ok d := by rw [readLine, if_pos blank]
      rw [skipped, readLines, read]
      exact ih
    · have kept : said (line :: lines) = content line :: said lines := by
        simp [said_eq, blank]
      rw [kept, readLines]
      constructor
      · intro read
        split at read
        · rename_i middle here
          rw [readLine, if_neg blank, bind_eq_ok_iff] at here
          obtain ⟨statement, cut, performed⟩ := here
          obtain ⟨record, meaning, rfl⟩ := perform_eq_ok_iff.mp performed
          obtain ⟨records, tells, rfl⟩ := ih.mp read
          rw [← after_singleton] at tells ⊢
          exact ⟨record :: records, .cons cut meaning tells, after_after _ _ _⟩
        · cases read
      · rintro ⟨records, tells, rfl⟩
        cases tells with
        | @cons _ _ statement record _ records cut meaning tells =>
          have here : d.readLine line = .ok (d.add record) := by
            rw [readLine, if_neg blank, cut]
            exact perform_eq_ok_iff.mpr ⟨record, meaning, rfl⟩
          rw [here]
          refine ih.mpr ⟨records, ?_, ?_⟩
          · rwa [← after_singleton]
          · rw [← after_singleton, after_after]
            rfl

/-- Every part of a diagram is what some records say about it, in order. An axis keeps the range
and the interval given last. -/
structure Holds (records : List Record) (d : Diagram) : Prop where
  points : d.points = records.filterMap Record.point?
  segments : d.segments = records.filterMap Record.segment?
  circles : d.circles = records.filterMap Record.circle?
  labels : d.labels = records.filterMap Record.label?
  bindings : d.bindings.entries = records.filterMap Record.binding?
  xRange : (d.xAxis.first, d.xAxis.last) =
    (records.filterMap Record.xRange?).getLastD (Axis.default.first, Axis.default.last)
  yRange : (d.yAxis.first, d.yAxis.last) =
    (records.filterMap Record.yRange?).getLastD (Axis.default.first, Axis.default.last)
  xInterval : d.xAxis.interval =
    (records.filterMap Record.xInterval?).getLastD Axis.default.interval
  yInterval : d.yAxis.interval =
    (records.filterMap Record.yInterval?).getLastD Axis.default.interval

theorem holds_iff {records : List Record} {d : Diagram} :
    Holds records d ↔ d = empty.after records := by
  constructor
  · intro holds
    rcases d with ⟨⟨first, last, interval⟩, ⟨first', last', interval'⟩, points, segments, circles,
      labels, ⟨entries⟩⟩
    obtain ⟨rfl, rfl, rfl, rfl, rfl, xRange, yRange, rfl, rfl⟩ := holds
    simp only [after, axisAfter, Bindings.after, empty, Bindings.empty, ← xRange, ← yRange,
      List.nil_append]
  · rintro rfl
    exact ⟨rfl, rfl, rfl, rfl, rfl, rfl, rfl, rfl, rfl⟩

def isAxisLine (line : Text) : Bool :=
  match Statement.ofLine line with
  | .ok statement =>
    [Command.xRange, .yRange, .xInterval, .yInterval].any (·.name == statement.command)
  | .error _ => false

theorem countP_isAxisLine {bindings : Bindings} {lines : List Text} {records : List Record}
    (tells : Tells bindings lines records) :
    lines.countP isAxisLine = records.countP Record.isAxis := by
  induction tells with
  | nil => rfl
  | cons cut meaning _ ih =>
    rw [List.countP_cons, List.countP_cons, ih, isAxisLine, cut]
    cases meaning <;> rfl

/-- A source is accepted exactly when all of its lines say something, each of them with the names
bound before it; and then the diagram holds what they say, and no line is passed over. -/
theorem ofSource_eq_ok_iff {source : Text} {d : Diagram} :
    ofSource source = .ok d ↔
      ∃ records : List Record,
        (records.length = (said source.lines).length ∧
          ∀ (i : Nat) line record,
            (said source.lines)[i]? = some line → records[i]? = some record →
              ∃ statement, Statement.ofLine line = .ok statement ∧
                Says (Bindings.empty.after (records.take i)) statement record) ∧
        Holds records d ∧
        (said source.lines).length =
          d.points.length + d.segments.length + d.circles.length + d.labels.length +
            d.bindings.size + (said source.lines).countP isAxisLine := by
  have read : ofSource source = .ok d ↔
      ∃ records, Tells Bindings.empty (said source.lines) records ∧ d = empty.after records :=
    readLines_eq_ok_iff
  rw [read]
  constructor
  · rintro ⟨records, tells, same⟩
    have each := tells_iff_getElem?.mp tells
    have holds := holds_iff.mpr same
    refine ⟨records, each, holds, ?_⟩
    rw [← each.1, Record.length_eq, countP_isAxisLine tells, Bindings.size, holds.points,
      holds.segments, holds.circles, holds.labels, holds.bindings]
  · rintro ⟨records, each, holds, _⟩
    exact ⟨records, tells_iff_getElem?.mpr each, holds_iff.mp holds⟩

end Diagram
end DiagramScript
