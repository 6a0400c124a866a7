import DiagramScript.Proofs.Script.Contents

/-! Noise in a source: white space around its lines, comments, lines that say nothing and the form
of the ends of lines. A run comes out the same with all of it, but for the numbers of lines behind
those that are inserted: `Diagram.same_outcome_of_noise`. -/
namespace DiagramScript

/-- A line with white space around it or a comment behind it. -/
inductive Dressed (line : Text) : Text → Prop
  | front {blank : Text} : blank.Blank → '\n' ∉ blank → Dressed line (blank ++ line)
  | back {blank : Text} : blank.Blank → '\n' ∉ blank → Dressed line (line ++ blank)
  | comment {words : Text} : '\n' ∉ words → Dressed line (line ++ ' ' :: '%' :: words)

/-- A line of white space, or of white space and a comment. -/
inductive Silent : Text → Prop
  | blank {line : Text} : line.Blank → '\n' ∉ line → Silent line
  | comment {blank words : Text} : blank.Blank → '\n' ∉ blank → '\n' ∉ words →
      Silent (blank ++ '%' :: words)

/-- Sources with the same lines, one of which is dressed or ends in another way. -/
inductive Touches : Text → Text → Prop
  | dress {before line line' after : Text} : before.EndsLine → '\n' ∉ line → after.EndOfLine →
      Dressed line line' → Touches (before ++ (line ++ after)) (before ++ (line' ++ after))
  | carriage (before after : Text) :
      Touches (before ++ '\n' :: after) (before ++ '\r' :: '\n' :: after)
  | close {source : Text} : ¬source.EndsLine → Touches source (source ++ ['\n'])

/-- One source has a silent line more than the other, behind the line with the number. -/
inductive Inserts : Text → Nat → Text → Prop
  | between {before line after : Text} : before.EndsLine → Silent line →
      Inserts (before ++ after) before.lines.length (before ++ (line ++ '\n' :: after))
  | last {source line : Text} : source.EndsLine → Silent line → line ≠ [] →
      Inserts source source.lines.length (source ++ line)

/-- The number of a line once a line is inserted behind the one with the first number. -/
def behind (k number : Nat) : Nat := if number ≤ k then number else number + 1

/-- Sources that come from each other by noise, with the numbers of the lines that are inserted. -/
inductive Noise (source : Text) : Text → List Nat → Prop
  | none : Noise source source []
  | touch {middle noisy : Text} {inserted : List Nat} :
      Noise source middle inserted → Touches middle noisy → Noise source noisy inserted
  | insert {middle noisy : Text} {inserted : List Nat} {k : Nat} :
      Noise source middle inserted → Inserts middle k noisy →
      Noise source noisy ((k + 1) :: inserted.map (behind k))

theorem Dressed.single {line line' : Text} (dressed : Dressed line line') (single : '\n' ∉ line) :
    '\n' ∉ line' := by
  cases dressed with
  | front _ blank => simp [blank, single]
  | back _ blank => simp [blank, single]
  | comment words => simp [words, single]

theorem Dressed.eq_nil {line line' : Text} (dressed : Dressed line line') (none : line' = []) :
    line = [] := by
  cases dressed with
  | front => exact (List.append_eq_nil_iff.mp none).2
  | back => exact (List.append_eq_nil_iff.mp none).1
  | comment => exact (List.append_eq_nil_iff.mp none).1

theorem Silent.single {line : Text} (silent : Silent line) : '\n' ∉ line := by
  cases silent with
  | blank _ single => exact single
  | comment _ blank words => simp [blank, words]

namespace Diagram

theorem content_of_dressed {line line' : Text} (dressed : Dressed line line') :
    content line' = content line := by
  cases dressed with
  | front blank => exact content_blank_append blank line
  | back blank => exact content_append_blank blank line
  | comment => exact content_append_comment line _

theorem content_of_silent {line : Text} (silent : Silent line) : content line = [] := by
  cases silent with
  | blank blank =>
    have same := content_append_blank blank []
    exact same
  | comment blank =>
    rw [content_blank_append blank, content_eq]
    rfl

/-- A line that takes the place of another one and says the same. At the end of a source it can be
a silent line where there was none. -/
theorem contents_of_same_line {before line line' after : Text} (closed : before.EndsLine)
    (single : '\n' ∉ line) (single' : '\n' ∉ line') (grown : line' = [] → line = [])
    (same : content line' = content line) (ends : after.EndOfLine) :
    ∃ tail, (∀ said ∈ tail, said = []) ∧
      contents (before ++ (line' ++ after)) = contents (before ++ (line ++ after)) ++ tail := by
  obtain ⟨later, behind⟩ := exists_contents_behind ends
  rw [contents_append closed, contents_append closed]
  -- Behind the last line feed there is no line yet, so what is put there is a line more.
  by_cases last : line = [] ∧ after = []
  · obtain ⟨rfl, rfl⟩ := last
    refine ⟨contents (line' ++ []), ?_, by rw [List.append_assoc]; rfl⟩
    by_cases none : line' = []
    · subst none
      exact nofun
    · rw [List.append_nil, contents_single single' none, same]
      exact fun said member => List.mem_singleton.mp member
  · have kept : line = [] → after ≠ [] := fun none none' => last ⟨none, none'⟩
    refine ⟨[], nofun, ?_⟩
    rw [behind line single kept, behind line' single' fun none => kept (grown none), same,
      List.append_nil]

theorem contents_of_touches {source noisy : Text} (touches : Touches source noisy) :
    ∃ tail, (∀ said ∈ tail, said = []) ∧ contents noisy = contents source ++ tail := by
  cases touches with
  | dress closed single ends dressed =>
    exact contents_of_same_line closed single (dressed.single single) dressed.eq_nil
      (content_of_dressed dressed) ends
  | carriage before after =>
    obtain ⟨before, line, rfl, closed, single⟩ := before.exists_last_line
    have carriage : Text.Blank ['\r'] := List.forall_mem_singleton.mpr rfl
    have single' : '\n' ∉ line ++ ['\r'] := by simp [single]
    have touched := contents_of_same_line closed single single'
      (fun none => (List.append_eq_nil_iff.mp none).1) (content_append_blank carriage line)
      (.inr ⟨after, .inl rfl⟩)
    simpa using touched
  | close opened =>
    obtain ⟨before, line, rfl, closed, single⟩ := source.exists_last_line
    have some : line ≠ [] := by
      rintro rfl
      exact opened (by rwa [List.append_nil])
    refine ⟨[], nofun, ?_⟩
    rw [List.append_assoc, contents_append closed, contents_append closed, contents_line single,
      contents_single single some, List.append_nil]
    rfl

theorem contents_of_inserts {source noisy : Text} {k : Nat} (inserts : Inserts source k noisy) :
    ∃ before after, before.length = k ∧ contents source = before ++ after ∧
      contents noisy = before ++ [] :: after := by
  cases inserts with
  | @between before line after closed silent =>
    refine ⟨contents before, contents after, List.length_map _, contents_append closed after, ?_⟩
    rw [contents_append closed, contents_line silent.single, content_of_silent silent]
  | last closed silent some =>
    refine ⟨contents source, [], List.length_map _, (List.append_nil _).symm, ?_⟩
    rw [contents_append closed, contents_single silent.single some, content_of_silent silent]

/-- Two runs that come to the same diagram, or to the same error at lines that say the same and
whose numbers are related. -/
inductive Follows (place : Nat → Nat → Prop) :
    Except LineError Diagram → Except LineError Diagram → Prop
  | ok (d : Diagram) : Follows place (.ok d) (.ok d)
  | error {e e' : LineError} : e'.error = e.error → content e'.source = content e.source →
      place e.line e'.line → Follows place (.error e) (.error e')

namespace Follows

variable {place place' : Nat → Nat → Prop} {first second third : Except LineError Diagram}

theorem mono (follows : Follows place first second)
    (weaker : ∀ e, first = .error e → ∀ number, place e.line number → place' e.line number) :
    Follows place' first second := by
  cases follows with
  | ok d => exact .ok d
  | error cause said at_line => exact .error cause said (weaker _ rfl _ at_line)

theorem trans (follows : Follows place first second) (follows' : Follows place' second third) :
    Follows (fun number number'' => ∃ number', place number number' ∧ place' number' number'')
      first third := by
  cases follows with
  | ok d =>
    cases follows' with
    | ok => exact .ok d
  | error cause said at_line =>
    cases follows' with
    | error cause' said' at_line' =>
      exact .error (cause'.trans cause) (said'.trans said) ⟨_, at_line, at_line'⟩

end Follows

theorem readLines_of_silent {lines : List Text} (silent : ∀ line ∈ lines, content line = [])
    (number : Nat) (d : Diagram) : d.readLines number lines = .ok d := by
  induction lines generalizing number with
  | nil => rfl
  | cons line lines ih =>
    obtain ⟨here, later⟩ := List.forall_mem_cons.mp silent
    rw [readLines, readLine, if_pos here]
    exact ih later _

/-- Lines that say the same, with silent lines behind them, and numbers that are shifted. -/
theorem follows_of_contents {lines lines' tail : List Text}
    (same : lines'.map content = lines.map content ++ tail) (silent : ∀ said ∈ tail, said = [])
    (number shift : Nat) (d : Diagram) :
    Follows (fun line line' => line' = line + shift) (d.readLines number lines)
      (d.readLines (number + shift) lines') := by
  induction lines generalizing lines' number d with
  | nil =>
    have silent' : ∀ line ∈ lines', content line = [] := by
      intro line member
      refine silent _ ?_
      rw [List.map_nil, List.nil_append] at same
      exact same ▸ List.mem_map_of_mem member
    rw [readLines_of_silent silent']
    exact .ok d
  | cons line lines ih =>
    obtain ⟨line', lines', rfl, here, later⟩ := List.map_eq_cons_iff.mp same
    rw [readLines, readLines, readLine_of_content here]
    cases d.readLine line with
    | error cause => exact .error rfl here rfl
    | ok next =>
      have followed := ih later (number + 1) next
      rwa [Nat.add_right_comm] at followed

theorem follows_of_same_contents {lines lines' : List Text}
    (same : lines'.map content = lines.map content) (number shift : Nat) (d : Diagram) :
    Follows (fun line line' => line' = line + shift) (d.readLines number lines)
      (d.readLines (number + shift) lines') := by
  have same' : lines'.map content = lines.map content ++ [] := by rw [same, List.append_nil]
  exact follows_of_contents same' nofun number shift d

theorem follows_of_inserted {lines lines' before after : List Text}
    (split : lines.map content = before ++ after)
    (split' : lines'.map content = before ++ [] :: after) (d : Diagram) :
    Follows (fun line line' => line' = behind before.length line) (d.readLines 1 lines)
      (d.readLines 1 lines') := by
  obtain ⟨first, others, rfl, rfl, rfl⟩ := List.map_eq_append_iff.mp split
  obtain ⟨first', others', rfl, same, split''⟩ := List.map_eq_append_iff.mp split'
  obtain ⟨line, others', rfl, silent, same'⟩ := List.map_eq_cons_iff.mp split''
  have skipped (next : Diagram) : next.readLine line = .ok next := by
    rw [readLine, if_pos silent]
  have length : first'.length = first.length := by
    simpa using congrArg List.length same
  have followed : Follows (fun line line' => line' = line + 0) (d.readLines 1 first)
      (d.readLines 1 first') := follows_of_same_contents same 1 0 d
  rw [readLines_append, readLines_append, List.length_map]
  generalize read' : d.readLines 1 first' = outcome' at followed ⊢
  cases read : d.readLines 1 first with
  | error e =>
    -- The run ends before it comes to the line.
    rw [read] at followed
    obtain ⟨before, after, _, split, number, _⟩ := readLines_eq_error_iff.mp read
    cases followed with
    | error cause said at_line =>
      refine .error cause said ?_
      have inside : e.line ≤ first.length := by simp [split, number]; omega
      rw [behind, if_pos inside]
      exact at_line
  | ok next =>
    rw [read] at followed
    cases followed
    have later : Follows (fun line line' => line' = line + 1)
        (next.readLines (1 + first.length) others)
        (next.readLines (1 + first'.length) (line :: others')) := by
      rw [readLines, skipped, length]
      exact follows_of_same_contents same' _ 1 next
    refine later.mono fun e failed number at_line => ?_
    obtain ⟨before, _, _, _, line_number, _⟩ := readLines_eq_error_iff.mp failed
    have beyond : ¬e.line ≤ first.length := by omega
    rw [at_line, behind, if_neg beyond]

theorem place_of_inserted {inserted : List Nat} {number number' k : Nat}
    (kept : number' ∉ inserted)
    (place : number' = number + inserted.countP (· < number')) :
    behind k number' ∉ (k + 1) :: inserted.map (behind k) ∧
      behind k number' =
        number + ((k + 1) :: inserted.map (behind k)).countP (· < behind k number') := by
  have order (m n : Nat) : behind k m < behind k n ↔ m < n := by
    unfold behind
    split <;> split <;> omega
  have apart (m : Nat) : behind k m ≠ k + 1 := by
    unfold behind
    split <;> omega
  have counted : (inserted.map (behind k)).countP (· < behind k number') =
      inserted.countP (· < number') := by
    rw [List.countP_map]
    exact List.countP_congr fun m _ => by simp [order]
  constructor
  · rw [List.mem_cons, not_or, List.mem_map]
    refine ⟨apart number', ?_⟩
    rintro ⟨m, member, same⟩
    have equal : m = number' := by
      have less := order m number'
      have more := order number' m
      omega
    exact kept (equal ▸ member)
  · rw [List.countP_cons, counted]
    by_cases early : number' ≤ k
    · have outside : ¬k + 1 < number' := by omega
      simp only [behind, if_pos early, outside, decide_false, Bool.false_eq_true, if_false]
      exact place
    · have inside : k + 1 < number' + 1 := by omega
      simp only [behind, if_neg early, inside, decide_true, if_true]
      omega

/-- Noise changes nothing in the outcome of a run: it is the same diagram, or the same error at the
line that corresponds, whose number grows by the number of lines inserted before it. -/
theorem same_outcome_of_noise {source noisy : Text} {inserted : List Nat}
    (noise : Noise source noisy inserted) :
    Follows (fun line line' => line' ∉ inserted ∧ line' = line + inserted.countP (· < line'))
      (ofSource source) (ofSource noisy) := by
  induction noise with
  | none =>
    cases ofSource source with
    | ok d => exact .ok d
    | error e => exact .error rfl rfl ⟨List.not_mem_nil, rfl⟩
  | touch _ touches ih =>
    obtain ⟨tail, silent, same⟩ := contents_of_touches touches
    have followed := follows_of_contents same silent 1 0 empty
    refine (ih.trans followed).mono ?_
    rintro e - number ⟨number', place, rfl⟩
    exact place
  | insert _ inserts ih =>
    obtain ⟨before, after, rfl, split, split'⟩ := contents_of_inserts inserts
    refine (ih.trans (follows_of_inserted split split' empty)).mono ?_
    rintro e - number ⟨number', ⟨kept, place⟩, rfl⟩
    exact place_of_inserted kept place

/-- A line in front, a comment that ends in a backslash, white space and a carriage return move an
error from the second line to the third one. -/
theorem same_outcome_of_noise_around_error :
    Noise "circle 1\nfoo 2".toList "\t% head\ncircle 1 % \\\r\n\u3000foo 2".toList [1] ∧
      ∃ e, ofSource "\t% head\ncircle 1 % \\\r\n\u3000foo 2".toList = .error e ∧
        e.error = .unknownCommand "foo".toList ∧ e.line = 3 := by
  have silent : Silent "\t% head".toList :=
    @Silent.comment ['\t'] " head".toList (List.forall_mem_singleton.mpr rfl)
      (by decide) (by decide)
  have inserts : Inserts "circle 1\nfoo 2".toList 0 "\t% head\ncircle 1\nfoo 2".toList :=
    @Inserts.between [] _ "circle 1\nfoo 2".toList (.inl rfl) silent
  have commented : Touches "\t% head\ncircle 1\nfoo 2".toList
      "\t% head\ncircle 1 % \\\nfoo 2".toList :=
    @Touches.dress "\t% head\n".toList "circle 1".toList _ "\nfoo 2".toList
      (.inr ⟨"\t% head".toList, rfl⟩) (by decide) (.inr ⟨"foo 2".toList, .inl rfl⟩)
      (@Dressed.comment _ " \\".toList (by decide))
  have carriage : Touches "\t% head\ncircle 1 % \\\nfoo 2".toList
      "\t% head\ncircle 1 % \\\r\nfoo 2".toList :=
    Touches.carriage "\t% head\ncircle 1 % \\".toList "foo 2".toList
  have spaced : Touches "\t% head\ncircle 1 % \\\r\nfoo 2".toList
      "\t% head\ncircle 1 % \\\r\n\u3000foo 2".toList :=
    @Touches.dress "\t% head\ncircle 1 % \\\r\n".toList "foo 2".toList _ []
      (.inr ⟨"\t% head\ncircle 1 % \\\r".toList, rfl⟩) (by decide) (.inl rfl)
      (@Dressed.front _ ['\u3000'] (List.forall_mem_singleton.mpr rfl) (by decide))
  have noise := (((Noise.none.insert inserts).touch commented).touch carriage).touch spaced
  have failed : ofSource "circle 1\nfoo 2".toList =
      .error ⟨2, "foo 2".toList, .unknownCommand "foo".toList⟩ := by decide +kernel
  have followed := same_outcome_of_noise noise
  rw [failed] at followed
  refine ⟨noise, ?_⟩
  generalize ofSource "\t% head\ncircle 1 % \\\r\n\u3000foo 2".toList = outcome at followed ⊢
  cases followed with
  | @error _ e cause _ place =>
    refine ⟨e, rfl, cause, ?_⟩
    obtain ⟨kept, place⟩ := place
    simp [List.countP_cons] at kept place
    split at place <;> omega

end Diagram
end DiagramScript
