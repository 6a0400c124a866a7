import DiagramScript.Proofs.Script.Words

/-! Lines of a source that goes on. A source can be cut behind any line feed, and a line feed after
the last line changes nothing that is read: `Diagram.ofSource_feed`. -/
namespace DiagramScript

namespace Text

def startLine (c : Char) : List Text → List Text
  | [] => [[c]]
  | first :: others => (c :: first) :: others

theorem startLine_append {c : Char} {first : List Text} (some : first ≠ []) (others : List Text) :
    startLine c (first ++ others) = startLine c first ++ others := by
  cases first with
  | nil => exact absurd rfl some
  | cons line first => rfl

theorem lines_cons {c : Char} {rest : Text} (other : c ≠ '\n')
    (apart : c = '\r' → ∀ rest', rest ≠ '\n' :: rest') :
    lines (c :: rest) = startLine c (lines rest) := by
  rw [lines.eq_4 c rest other fun rest' carriage => apart carriage rest']
  cases lines rest <;> rfl

theorem lines_induction {motive : Text → Prop} (nil : motive [])
    (feed : ∀ rest, motive rest → motive ('\n' :: rest))
    (carriage : ∀ rest, motive rest → motive ('\r' :: '\n' :: rest))
    (other : ∀ c rest, c ≠ '\n' → (c = '\r' → ∀ rest', rest ≠ '\n' :: rest') → motive rest →
      motive (c :: rest)) (source : Text) : motive source := by
  induction source using lines.induct with
  | case1 => exact nil
  | case2 rest ih => exact feed rest ih
  | case3 rest ih => exact carriage rest ih
  | case4 c rest here apart _ ih => exact other c rest here (fun same rest' => apart rest' same) ih
  | case5 c rest here apart _ _ _ ih =>
    exact other c rest here (fun same rest' => apart rest' same) ih

theorem lines_ne_nil {source : Text} (some : source ≠ []) : lines source ≠ [] := by
  induction source using lines_induction with
  | nil => exact absurd rfl some
  | feed => simp [lines]
  | carriage => simp [lines]
  | other c rest here apart =>
    rw [lines_cons here apart]
    cases lines rest <;> exact List.cons_ne_nil _ _

theorem lines_of_single {text : Text} (single : '\n' ∉ text) (some : text ≠ []) :
    lines text = [text] := by
  induction text with
  | nil => exact absurd rfl some
  | cons c rest ih =>
    obtain ⟨here, later⟩ := not_or.mp (mt List.mem_cons.mpr single)
    have apart : c = '\r' → ∀ rest', rest ≠ '\n' :: rest' := by
      rintro _ rest' rfl
      exact later List.mem_cons_self
    rw [lines_cons (Ne.symm here) apart]
    rcases rest with _ | ⟨c', rest⟩
    · rfl
    · rw [ih later (List.cons_ne_nil _ _)]
      rfl

theorem not_mem_of_mem_lines {source : Text} : ∀ line ∈ lines source, '\n' ∉ line := by
  induction source using lines_induction with
  | nil => exact nofun
  | feed rest ih =>
    rw [lines]
    exact List.forall_mem_cons.mpr ⟨List.not_mem_nil, ih⟩
  | carriage rest ih =>
    rw [lines]
    exact List.forall_mem_cons.mpr ⟨List.not_mem_nil, ih⟩
  | other c rest here apart ih =>
    rw [lines_cons here apart]
    rcases cut : lines rest with _ | ⟨first, others⟩
    · simpa [startLine] using Ne.symm here
    · rw [cut] at ih
      obtain ⟨first_single, others_single⟩ := List.forall_mem_cons.mp ih
      refine List.forall_mem_cons.mpr ⟨?_, others_single⟩
      simpa [first_single] using Ne.symm here

theorem lines_append_feed (source more : Text) :
    lines (source ++ '\n' :: more) = lines (source ++ ['\n']) ++ lines more := by
  induction source using lines_induction with
  | nil => rfl
  | feed rest ih =>
    rw [List.cons_append, List.cons_append, lines, lines, ih]
    rfl
  | carriage rest ih =>
    simp only [List.cons_append, lines]
    rw [ih]
  | other c rest here apart ih =>
    rw [List.cons_append, List.cons_append]
    by_cases ends : c = '\r' ∧ rest = []
    · obtain ⟨rfl, rfl⟩ := ends
      rfl
    · have apart' (more : Text) : c = '\r' → ∀ rest', rest ++ '\n' :: more ≠ '\n' :: rest' := by
        intro same rest' start
        rcases rest with _ | ⟨c', rest⟩
        · exact ends ⟨same, rfl⟩
        · rw [List.cons_append, List.cons.injEq] at start
          exact apart same rest (by rw [start.1])
      rw [lines_cons here (apart' more), lines_cons here (apart' []), ih,
        startLine_append (lines_ne_nil (by simp))]

/-- A line feed at the end of a source adds an empty line, or takes a carriage return from the last
line, or changes nothing. -/
theorem lines_feed (source : Text) :
    lines (source ++ ['\n']) = lines source ++ [[]] ∨
      ∃ init last last', lines source = init ++ [last] ∧
        lines (source ++ ['\n']) = init ++ [last'] ∧ (last = last' ∨ last = last' ++ ['\r']) := by
  induction source using lines_induction with
  | nil => exact .inl rfl
  | feed rest ih =>
    rw [List.cons_append, lines, lines]
    rcases ih with blank | ⟨init, last, last', same, same', ends⟩
    · exact .inl (by rw [blank]; rfl)
    · exact .inr ⟨[] :: init, last, last', by rw [same]; rfl, by rw [same']; rfl, ends⟩
  | carriage rest ih =>
    simp only [List.cons_append, lines]
    rcases ih with blank | ⟨init, last, last', same, same', ends⟩
    · exact .inl (by rw [blank])
    · exact .inr ⟨[] :: init, last, last', by rw [same]; rfl, by rw [same']; rfl, ends⟩
  | other c rest here apart ih =>
    rcases rest with _ | ⟨c', rest⟩
    · by_cases carriage : c = '\r'
      · subst carriage
        exact .inr ⟨[], ['\r'], [], rfl, rfl, .inr rfl⟩
      · refine .inr ⟨[], [c], [c], lines_cons here apart, ?_, .inl rfl⟩
        exact lines_cons here fun same => absurd same carriage
    · have apart' : c = '\r' → ∀ rest', c' :: rest ++ ['\n'] ≠ '\n' :: rest' := by
        intro same rest' start
        rw [List.cons_append, List.cons.injEq] at start
        exact apart same rest (by rw [start.1])
      rw [List.cons_append, lines_cons here apart, lines_cons here apart']
      rcases ih with blank | ⟨init, last, last', same, same', ends⟩
      · rw [blank, startLine_append (lines_ne_nil (List.cons_ne_nil _ _))]
        exact .inl rfl
      · rw [same, same']
        rcases init with _ | ⟨first, init⟩
        · refine .inr ⟨[], c :: last, c :: last', rfl, rfl, ?_⟩
          exact ends.imp (congrArg (c :: ·)) (congrArg (c :: ·))
        · exact .inr ⟨(c :: first) :: init, last, last', rfl, rfl, ends⟩

end Text

namespace Diagram

theorem readLines_append (number : Nat) (d : Diagram) (first others : List Text) :
    d.readLines number (first ++ others) =
      d.readLines number first >>= fun next => next.readLines (number + first.length) others := by
  induction first generalizing number d with
  | nil => rfl
  | cons line first ih =>
    rw [List.cons_append, readLines, readLines]
    cases d.readLine line with
    | error cause => rfl
    | ok next =>
      dsimp only
      rw [ih, List.length_cons, Nat.add_right_comm, Nat.add_assoc]

theorem readLines_singleton_eq_ok_iff {number : Nat} {d next : Diagram} {line : Text} :
    d.readLines number [line] = .ok next ↔ d.readLine line = .ok next := by
  rw [readLines]
  cases d.readLine line with
  | error cause => simp
  | ok next' => simp [readLines]

theorem content_append_blank {tail : Text} (blank : tail.Blank) (line : Text) :
    content (line ++ tail) = content line := by
  simp only [content, Text.trim_append_of_blank blank]

theorem readLine_of_content {line line' : Text} (same : content line' = content line)
    (d : Diagram) : d.readLine line' = d.readLine line := by
  simp only [readLine, same]

theorem readLines_feed {source : Text} {number : Nat} {d next : Diagram}
    (read : d.readLines number source.lines = .ok next) :
    d.readLines number (Text.lines (source ++ ['\n'])) = .ok next := by
  rcases source.lines_feed with blank | ⟨init, last, last', same, same', ends⟩
  · rw [blank, readLines_append, read]
    rfl
  · rw [same, readLines_append, bind_eq_ok_iff] at read
    obtain ⟨before, read_init, read_last⟩ := read
    rw [same', readLines_append, read_init]
    refine readLines_singleton_eq_ok_iff.mpr ?_
    rw [readLines_singleton_eq_ok_iff] at read_last
    rcases ends with rfl | rfl
    · exact read_last
    · have carriage : Text.Blank ['\r'] := List.forall_mem_singleton.mpr rfl
      rwa [readLine_of_content (content_append_blank carriage last')] at read_last

theorem ofSource_feed {source : Text} {d : Diagram} (read : ofSource source = .ok d)
    (more : Text) :
    ofSource (source ++ '\n' :: more) =
      d.readLines (1 + (Text.lines (source ++ ['\n'])).length) (Text.lines more) := by
  rw [ofSource, Text.lines_append_feed, readLines_append, readLines_feed read]
  rfl

end Diagram
end DiagramScript
