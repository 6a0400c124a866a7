import DiagramScript.Proofs.Text.Trim
import DiagramScript.Script.Statement

/-! Pieces of a line. The scanner goes through a line once, with a record of what it has read. Here
the same cuts are made one after the other, by functions on whole texts: the color is cut off first,
and what stands before it is cut at the commas. Main statement: `Draft.finish_eq`. -/
namespace DiagramScript.Statement

open Draft (literalAfter)

/-- The mark for literals after a text. -/
def insideAfter (inside : Bool) (text : Text) : Bool :=
  text.foldl literalAfter inside

def Free (mark : Char) (inside : Bool) : Text → Prop
  | [] => True
  | c :: rest => ¬(c = mark ∧ inside = false) ∧ Free mark (literalAfter inside c) rest

/-- A text cut at the commas outside its literals. -/
def pieces (inside : Bool) : Text → List Text
  | [] => [[]]
  | c :: rest =>
    if c = ',' ∧ inside = false then [] :: pieces false rest
    else (pieces (literalAfter inside c) rest).modifyHead (c :: ·)

/-- A text up to the first mark of a color, and what follows the mark. -/
def cutColor (inside : Bool) : Text → Text × Option Text
  | [] => ([], none)
  | c :: rest =>
    if c = '!' ∧ inside = false then ([], some rest)
    else
      let (before, mark?) := cutColor (literalAfter inside c) rest
      (c :: before, mark?)

def colorPart : Option Text → Text
  | none => []
  | some mark => '!' :: mark

theorem insideAfter_append (inside : Bool) (left right : Text) :
    insideAfter inside (left ++ right) = insideAfter (insideAfter inside left) right :=
  List.foldl_append

theorem literalAfter_of_ne {c : Char} (opening : c ≠ '[') (closing : c ≠ ']') (quote : c ≠ '"')
    (inside : Bool) : literalAfter inside c = inside := by
  rw [literalAfter, if_neg opening, if_neg closing, if_neg quote]

theorem insideAfter_of_plain {text : Text} (plain : ∀ c ∈ text, c ∉ ['[', ']', '"'])
    (inside : Bool) : insideAfter inside text = inside := by
  induction text generalizing inside with
  | nil => rfl
  | cons c rest ih =>
    obtain ⟨here, later⟩ := List.forall_mem_cons.mp plain
    have step : insideAfter inside (c :: rest) = insideAfter (literalAfter inside c) rest := rfl
    simp only [List.mem_cons, List.not_mem_nil, or_false, not_or] at here
    rw [step, literalAfter_of_ne here.1 here.2.1 here.2.2]
    exact ih later inside

theorem insideAfter_of_blank {text : Text} (blank : text.Blank) (inside : Bool) :
    insideAfter inside text = inside := by
  refine insideAfter_of_plain ?_ inside
  intro c member mark
  have white := blank c member
  simp only [List.mem_cons, List.not_mem_nil, or_false] at mark
  rcases mark with rfl | rfl | rfl <;> cases white

namespace Free

variable {mark : Char} {inside : Bool}

theorem append_iff {left right : Text} : Free mark inside (left ++ right) ↔
    Free mark inside left ∧ Free mark (insideAfter inside left) right := by
  induction left generalizing inside with
  | nil => simp [Free, insideAfter]
  | cons c left ih =>
    rw [List.cons_append, Free, Free, ih, and_assoc]
    rfl

theorem of_not_mem {text : Text} (plain : mark ∉ text) : Free mark inside text := by
  induction text generalizing inside with
  | nil => trivial
  | cons c rest ih =>
    obtain ⟨other, rest_plain⟩ := not_or.mp (mt List.mem_cons.mpr plain)
    exact ⟨fun same => other same.1.symm, ih rest_plain⟩

end Free

theorem pieces_ne_nil (inside : Bool) (text : Text) : pieces inside text ≠ [] := by
  induction text generalizing inside with
  | nil => exact List.cons_ne_nil _ _
  | cons c rest ih =>
    rw [pieces]
    split
    · exact List.cons_ne_nil _ _
    · simp only [ne_eq, List.modifyHead_eq_nil_iff]
      exact ih _

theorem pieces_of_free {inside : Bool} {text : Text} (free : Free ',' inside text) :
    pieces inside text = [text] := by
  induction text generalizing inside with
  | nil => rfl
  | cons c rest ih => rw [pieces, if_neg free.1, ih free.2, List.modifyHead_cons]

theorem modifyHead_nil_append (parts : List Text) : parts.modifyHead ([] ++ ·) = parts := by
  cases parts <;> rfl

theorem pieces_append_of_free {inside : Bool} {left : Text} (free : Free ',' inside left)
    (right : Text) : pieces inside (left ++ right) =
      (pieces (insideAfter inside left) right).modifyHead (left ++ ·) := by
  induction left generalizing inside with
  | nil =>
    rw [modifyHead_nil_append]
    rfl
  | cons c left ih =>
    rw [List.cons_append, pieces, if_neg free.1, ih free.2, List.modifyHead_modifyHead]
    rfl

theorem split_of_pieces {inside : Bool} {text first second : Text} {others : List Text}
    (cut : pieces inside text = first :: second :: others) :
    ∃ rest, text = first ++ ',' :: rest ∧ Free ',' inside first ∧
      insideAfter inside first = false ∧ pieces false rest = second :: others := by
  induction text generalizing inside first with
  | nil => cases cut
  | cons c rest ih =>
    rw [pieces] at cut
    split at cut
    · rename_i comma
      obtain ⟨rfl, rfl⟩ := comma
      obtain ⟨rfl, later⟩ := List.cons.inj cut
      exact ⟨rest, rfl, trivial, rfl, later⟩
    · rename_i other
      rcases cut' : pieces (literalAfter inside c) rest with _ | ⟨first', others'⟩
      · exact absurd cut' (pieces_ne_nil _ _)
      · rw [cut', List.modifyHead_cons] at cut
        obtain ⟨rfl, rfl⟩ := List.cons.inj cut
        obtain ⟨rest', rfl, free, outside, cut''⟩ := ih cut'
        exact ⟨rest', rfl, ⟨other, free⟩, outside, cut''⟩

theorem free_of_pieces {inside : Bool} {text piece : Text} (cut : pieces inside text = [piece]) :
    piece = text ∧ Free ',' inside text := by
  induction text generalizing inside piece with
  | nil => exact ⟨(List.singleton_inj.mp cut).symm, trivial⟩
  | cons c rest ih =>
    rw [pieces] at cut
    split at cut
    · exact absurd (List.cons.inj cut).2 (pieces_ne_nil _ _)
    · rename_i other
      rcases cut' : pieces (literalAfter inside c) rest with _ | ⟨first', others'⟩
      · exact absurd cut' (pieces_ne_nil _ _)
      · rw [cut', List.modifyHead_cons] at cut
        obtain ⟨rfl, rfl⟩ := List.cons.inj cut
        obtain ⟨rfl, free⟩ := ih cut'
        exact ⟨rfl, other, free⟩

/-- All pieces but the last one are complete: what follows the text goes on from there. -/
theorem exists_pieces_append (inside : Bool) (left : Text) :
    ∃ init last, pieces inside left = init ++ [last] ∧ ∀ right, pieces inside (left ++ right) =
      init ++ (pieces (insideAfter inside left) right).modifyHead (last ++ ·) := by
  induction left generalizing inside with
  | nil =>
    refine ⟨[], [], rfl, fun right => ?_⟩
    rw [modifyHead_nil_append]
    rfl
  | cons c left ih =>
    by_cases comma : c = ',' ∧ inside = false
    · obtain ⟨rfl, rfl⟩ := comma
      obtain ⟨init, last, cut, onward⟩ := ih false
      refine ⟨[] :: init, last, ?_, fun right => ?_⟩
      · rw [pieces, if_pos ⟨rfl, rfl⟩, cut, List.cons_append]
      · rw [List.cons_append, pieces, if_pos ⟨rfl, rfl⟩, onward, List.cons_append]
        rfl
    · obtain ⟨init, last, cut, onward⟩ := ih (literalAfter inside c)
      have further (right : Text) : pieces inside (c :: left ++ right) =
          (init ++ (pieces (insideAfter inside (c :: left)) right).modifyHead
            (last ++ ·)).modifyHead (c :: ·) := by
        rw [List.cons_append, pieces, if_neg comma, onward]
        rfl
      rw [pieces, if_neg comma, cut]
      rcases init with _ | ⟨first, init⟩
      · refine ⟨[], c :: last, rfl, fun right => ?_⟩
        rw [further, List.nil_append, List.nil_append, List.modifyHead_modifyHead]
        rfl
      · refine ⟨(c :: first) :: init, last, rfl, fun right => ?_⟩
        rw [further]
        rfl

theorem map_trim_pieces_append_blank {tail : Text} (blank : tail.Blank) (inside : Bool)
    (text : Text) :
    (pieces inside (text ++ tail)).map Text.trim = (pieces inside text).map Text.trim := by
  obtain ⟨init, last, cut, onward⟩ := exists_pieces_append inside text
  have free : Free ',' (insideAfter inside text) tail := by
    refine .of_not_mem fun comma => ?_
    cases blank _ comma
  rw [onward, cut, pieces_of_free free, List.modifyHead_cons, List.map_append, List.map_append,
    List.map_singleton, List.map_singleton, Text.trim_append_of_blank blank]

theorem cutColor_of_free {inside : Bool} {text : Text} (free : Free '!' inside text) :
    cutColor inside text = (text, none) := by
  induction text generalizing inside with
  | nil => rfl
  | cons c rest ih => rw [cutColor, if_neg free.1, ih free.2]

theorem cutColor_append_of_free {inside : Bool} {left : Text} (free : Free '!' inside left)
    (right : Text) : cutColor inside (left ++ right) =
      (left ++ (cutColor (insideAfter inside left) right).1,
        (cutColor (insideAfter inside left) right).2) := by
  induction left generalizing inside with
  | nil => rfl
  | cons c left ih =>
    rw [List.cons_append, cutColor, if_neg free.1, ih free.2]
    rfl

/-- The cut is made at the first mark of a color outside literals. -/
theorem cutColor_spec (inside : Bool) (text : Text) :
    text = (cutColor inside text).1 ++ colorPart (cutColor inside text).2 ∧
      Free '!' inside (cutColor inside text).1 ∧
      ((cutColor inside text).2 ≠ none → insideAfter inside (cutColor inside text).1 = false) := by
  induction text generalizing inside with
  | nil => exact ⟨rfl, trivial, fun some => absurd rfl some⟩
  | cons c rest ih =>
    rw [cutColor]
    split
    · rename_i mark
      obtain ⟨rfl, rfl⟩ := mark
      exact ⟨rfl, trivial, fun _ => rfl⟩
    · rename_i other
      obtain ⟨split, free, outside⟩ := ih (literalAfter inside c)
      exact ⟨congrArg (c :: ·) split, ⟨other, free⟩, outside⟩

namespace Draft

/-- Reading on to a place before which no mark of a color stands outside literals, and no space
either if the command word is not complete yet. -/
theorem finish_append (s : Draft) {left : Text} (word : s.command? = none → ' ' ∉ left)
    (free : Free '!' s.inLiteral left) :
    ∃ init last, (pieces s.inLiteral left).modifyHead (s.pending.reverse ++ ·) = init ++ [last] ∧
      ∀ right, s.finish (left ++ right) =
        finish ⟨s.command?, (init.map Text.trim).reverse ++ s.arguments, last.reverse,
          insideAfter s.inLiteral left⟩ right := by
  induction left generalizing s with
  | nil =>
    refine ⟨[], s.pending.reverse, ?_, fun right => ?_⟩
    · rw [pieces, List.modifyHead_cons, List.append_nil]
      rfl
    · rw [List.reverse_reverse]
      rfl
  | cons c left ih =>
    have word' : s.command? = none → c ≠ ' ' ∧ ' ' ∉ left := by
      intro none
      have absent := word none
      rw [List.mem_cons, not_or] at absent
      exact ⟨Ne.symm absent.1, absent.2⟩
    have no_space : ¬(c = ' ' ∧ s.command? = none) := fun space => (word' space.2).1 space.1
    have read (right : Text) :
        s.finish (c :: left ++ right) = (s.step c).finish (left ++ right) := by
      rw [List.cons_append, finish, if_neg free.1]
    by_cases comma : c = ',' ∧ s.inLiteral = false
    · obtain ⟨rfl, outside⟩ := comma
      have step : s.step ',' = s.close := by
        rw [Draft.step, if_neg no_space, if_pos ⟨rfl, outside⟩]
      have same : literalAfter s.inLiteral ',' = s.inLiteral :=
        literalAfter_of_ne (by decide) (by decide) (by decide) _
      obtain ⟨init, last, cut, onward⟩ := ih s.close (fun none => (word' none).2) (same ▸ free.2)
      have cut' : pieces s.inLiteral left = init ++ [last] := by
        rw [← cut]
        exact (modifyHead_nil_append _).symm
      refine ⟨s.pending.reverse :: init, last, ?_, fun right => ?_⟩
      · rw [pieces, if_pos ⟨rfl, outside⟩, ← outside, cut', List.modifyHead_cons, List.append_nil,
          List.cons_append]
      · rw [read, step, onward]
        simp [close, insideAfter, same]
    · have step : s.step c =
          { s with pending := c :: s.pending, inLiteral := literalAfter s.inLiteral c } := by
        rw [Draft.step, if_neg no_space, if_neg comma]
      obtain ⟨init, last, cut, onward⟩ := ih (s.step c)
        (by rw [step]; exact fun none => (word' none).2) (by rw [step]; exact free.2)
      rw [step] at cut onward
      refine ⟨init, last, ?_, fun right => ?_⟩
      · rw [← cut, pieces, if_neg comma, List.modifyHead_modifyHead]
        simp [Function.comp_def]
      · rw [read, step, onward]
        rfl

/-- What the scanner finds behind the command word: the color is cut off, and the rest is cut at
the commas. -/
theorem finish_eq (s : Draft) {text : Text}
    (word : s.command? = none → ' ' ∉ (cutColor s.inLiteral text).1) :
    s.finish text =
      (⟨s.command?, ((((pieces s.inLiteral (cutColor s.inLiteral text).1).modifyHead
          (s.pending.reverse ++ ·)).map Text.trim).reverse ++ s.arguments), [],
        insideAfter s.inLiteral (cutColor s.inLiteral text).1⟩,
        (cutColor s.inLiteral text).2) := by
  obtain ⟨split, free, outside⟩ := cutColor_spec s.inLiteral text
  obtain ⟨init, last, cut, onward⟩ := s.finish_append word free
  rw [cut]
  conv_lhs => rw [split, onward]
  cases mark : (cutColor s.inLiteral text).2 with
  | none => simp [colorPart, finish, close]
  | some mark' =>
    have closed := outside (by rw [mark]; exact Option.some_ne_none _)
    simp [colorPart, finish, close, closed]

theorem finish_of_command (command : Text) (arguments : List Text) (inside : Bool) (text : Text) :
    finish ⟨some command, arguments, [], inside⟩ text =
      (⟨some command, ((pieces inside (cutColor inside text).1).map Text.trim).reverse ++ arguments,
        [], insideAfter inside (cutColor inside text).1⟩, (cutColor inside text).2) := by
  have read : finish ⟨some command, arguments, [], inside⟩ text = _ := finish_eq _ nofun
  rw [List.reverse_nil, modifyHead_nil_append] at read
  exact read

end Draft

end DiagramScript.Statement
