import DiagramScript.Proofs.Outcome
import DiagramScript.Proofs.Script.Comment
import DiagramScript.Proofs.Script.Pieces
import DiagramScript.Script.Run

/-! Lines that say something: what a line with a plain word in front of its first space is read as
(`ofLine_of_word`), and what a line with arguments looks like (`ofLine_eq_ok`). -/
namespace DiagramScript

namespace Statement

def readColor : Option Text → Except ScriptError (Option Color)
  | none => .ok none
  | some mark => (Color.ofText mark).map some

def IsWord (word : Text) : Prop :=
  word ≠ [] ∧ ∀ c ∈ word, isBlank c = false ∧ c ∉ [',', '!', '[', ']', '"']

theorem isWord_name (command : Command) : IsWord command.name := by
  have plain : command.name.all
      (fun c => isBlank c == false && !([',', '!', '[', ']', '"'].contains c)) = true := by
    cases command <;> rfl
  refine ⟨by cases command <;> exact List.cons_ne_nil _ _, fun c member => ?_⟩
  simpa using List.all_eq_true.mp plain c member

theorem ofLine_eq (line : Text) :
    ofLine line = (do
      let color? ← readColor ((Draft.start.finish line.trim).2.map Text.trim)
      let parts := (Draft.start.finish line.trim).1.parts
      .ok ⟨parts.1, parts.2, color?⟩) := by
  rw [ofLine]
  rcases Draft.start.finish line.trim with ⟨read, mark?⟩
  cases mark? <;> rfl

theorem ofLine_trim (line : Text) : ofLine line.trim = ofLine line := by
  rw [ofLine_eq, ofLine_eq, Text.trim_trim]

theorem cutColor_append_blank {tail : Text} (blank : tail.Blank) (inside : Bool) (text : Text) :
    (pieces inside (cutColor inside (text ++ tail)).1).map Text.trim =
        (pieces inside (cutColor inside text).1).map Text.trim ∧
      (cutColor inside (text ++ tail)).2.map Text.trim =
        (cutColor inside text).2.map Text.trim := by
  obtain ⟨split, free, outside⟩ := cutColor_spec inside text
  rcases cut : cutColor inside text with ⟨before, mark?⟩
  rw [cut] at split free outside
  subst split
  cases mark? with
  | none =>
    have free_tail : Free '!' (insideAfter inside before) tail := by
      refine .of_not_mem fun mark => ?_
      cases blank _ mark
    rw [colorPart, List.append_nil, cutColor_of_free (Free.append_iff.mpr ⟨free, free_tail⟩)]
    exact ⟨map_trim_pieces_append_blank blank inside before, rfl⟩
  | some mark =>
    have closed := outside (Option.some_ne_none _)
    rw [colorPart, List.append_assoc, cutColor_append_of_free free, closed]
    simp [cutColor, Text.trim_append_of_blank blank]

theorem free_of_isWord {word : Text} (plain : IsWord word) {mark : Char}
    (special : mark ∈ [',', '!', '[', ']', '"']) (inside : Bool) : Free mark inside word :=
  .of_not_mem fun member => (plain.2 _ member).2 special

theorem insideAfter_of_isWord {word : Text} (plain : IsWord word) (inside : Bool) :
    insideAfter inside word = inside := by
  refine insideAfter_of_plain (fun c member literal => ?_) inside
  refine (plain.2 c member).2 ?_
  simp only [List.mem_cons, List.not_mem_nil, or_false] at literal ⊢
  tauto

theorem finish_of_word {word : Text} (plain : IsWord word) (rest : Text) :
    Draft.start.finish (word ++ ' ' :: rest) = Draft.finish ⟨some word, [], [], false⟩ rest := by
  have no_space : Draft.start.command? = none → ' ' ∉ word := by
    intro _ space
    cases (plain.2 _ space).1
  obtain ⟨init, last, cut, onward⟩ :=
    Draft.start.finish_append no_space (free_of_isWord plain (by simp) _)
  rw [pieces_of_free (free_of_isWord plain (by simp) _)] at cut
  obtain ⟨rfl, rfl⟩ : init = [] ∧ last = word := by
    rcases init with _ | ⟨first, init⟩
    · exact ⟨rfl, (List.singleton_inj.mp cut).symm⟩
    · simp at cut
  rw [onward, insideAfter_of_isWord plain]
  simp [Draft.finish, Draft.step, Draft.start]

/-- A line that starts with a plain word and a space: the word is the command, the arguments are
the pieces between the commas, and the color stands after the first exclamation mark. -/
theorem ofLine_of_word {word rest : Text} (plain : IsWord word) (said : rest.trim ≠ []) :
    ofLine (word ++ ' ' :: rest) = (do
      let color? ← readColor ((cutColor false rest).2.map Text.trim)
      .ok ⟨word, (pieces false (cutColor false rest).1).map Text.trim, color?⟩) := by
  obtain ⟨lead, tail, _, after, split⟩ := rest.exists_trim
  obtain ⟨c, word', rfl⟩ := List.exists_cons_of_ne_nil plain.1
  have first := (plain.2 c List.mem_cons_self).1
  have trimmed : Text.trim (c :: word' ++ ' ' :: rest) =
      c :: word' ++ ' ' :: (lead ++ rest.trim) := by
    have shape : c :: word' ++ ' ' :: rest =
        (c :: ((word' ++ ' ' :: lead) ++ rest.trim)) ++ tail := by
      simpa using split
    rw [shape, Text.trim_append_of_blank after,
      Text.trim_cons_append first _ rest.trim_trim said]
    simp
  obtain ⟨same_pieces, same_mark⟩ := cutColor_append_blank after false (lead ++ rest.trim)
  rw [List.append_assoc, ← split] at same_pieces same_mark
  rw [ofLine_eq, trimmed, finish_of_word plain, Draft.finish_of_command, same_pieces, same_mark]
  simp [Draft.parts]

/-- A line with a space outside its color: the last piece before the first space is the command,
and the pieces before that one are arguments too. -/
theorem ofLine_of_front {line front rest command : Text} {init : List Text}
    (shape : line.trim = front ++ ' ' :: rest) (no_space : ' ' ∉ front)
    (colorless : Free '!' false front) (cut : pieces false front = init ++ [command]) :
    ofLine line = (do
      let color? ← readColor ((cutColor (insideAfter false front) rest).2.map Text.trim)
      .ok ⟨command, (init ++ pieces (insideAfter false front)
        (cutColor (insideAfter false front) rest).1).map Text.trim, color?⟩) := by
  obtain ⟨init', last, cut', onward⟩ := Draft.start.finish_append (fun _ => no_space) colorless
  rw [Draft.start, List.reverse_nil, modifyHead_nil_append, cut] at cut'
  obtain ⟨rfl, same⟩ := List.append_inj' cut' rfl
  cases same
  have known : Draft.start.finish line.trim =
      Draft.finish ⟨some command, (init.map Text.trim).reverse, [], insideAfter false front⟩
        rest := by
    rw [shape, onward]
    simp [Draft.finish, Draft.step, Draft.start]
  rw [ofLine_eq, known, Draft.finish_of_command]
  simp [Draft.parts]

theorem arguments_ne_nil_iff {line : Text} {statement : Statement}
    (read : ofLine line = .ok statement) :
    statement.arguments ≠ [] ↔ ' ' ∈ (cutColor false line.trim).1 := by
  obtain ⟨split, free, _⟩ := cutColor_spec false line.trim
  by_cases space : ' ' ∈ (cutColor false line.trim).1
  · obtain ⟨front, rest, shape, no_space⟩ := List.eq_append_cons_of_mem space
    rw [shape, Free.append_iff] at free
    rw [shape, List.append_assoc, List.cons_append] at split
    obtain ⟨init, last, cut, _⟩ := exists_pieces_append false front
    rw [ofLine_of_front split no_space free.1 cut, bind_eq_ok_iff] at read
    obtain ⟨color?, _, same⟩ := read
    cases same
    simp [space, pieces_ne_nil]
  · rw [ofLine_eq, bind_eq_ok_iff, Draft.finish_eq _ fun _ => space] at read
    obtain ⟨color?, _, same⟩ := read
    cases same
    simp [space, Draft.parts, Draft.start]

theorem ofLine_eq_ok {line : Text} {statement : Statement} (read : ofLine line = .ok statement)
    (given : statement.arguments ≠ []) :
    ∃ front rest init, line.trim = front ++ ' ' :: rest ∧ ' ' ∉ front ∧ Free '!' false front ∧
      pieces false front = init ++ [statement.command] ∧
      statement.arguments = (init ++ pieces (insideAfter false front)
        (cutColor (insideAfter false front) rest).1).map Text.trim := by
  obtain ⟨split, free, _⟩ := cutColor_spec false line.trim
  obtain ⟨front, rest, shape, no_space⟩ :=
    List.eq_append_cons_of_mem ((arguments_ne_nil_iff read).mp given)
  rw [shape, Free.append_iff] at free
  rw [shape, List.append_assoc, List.cons_append] at split
  obtain ⟨init, last, cut, _⟩ := exists_pieces_append false front
  rw [ofLine_of_front split no_space free.1 cut, bind_eq_ok_iff] at read
  obtain ⟨color?, _, same⟩ := read
  cases same
  exact ⟨front, _, init, split, no_space, free.1, cut, rfl⟩

end Statement

namespace Diagram

theorem trim_content (line : Text) : (content line).trim = content line := Text.trim_trim _

theorem uncommented_content (line : Text) : Uncommented false (content line) :=
  (uncommented_beforeComment false line.trim).trim

theorem readLine_of_uncommented {line : Text} (plain : Uncommented false line)
    (said : line.trim ≠ []) (d : Diagram) :
    d.readLine line = (do
      let statement ← Statement.ofLine line
      d.perform statement) := by
  have same : content line = line.trim := by
    have trimmed : stripComment line.trim = line.trim := plain.trim
    rw [content, trimmed, Text.trim_trim]
  rw [readLine, same, if_neg said, Statement.ofLine_trim]

theorem readLine_of_word {word rest : Text} (plain : Statement.IsWord word)
    (uncommented : Uncommented false (word ++ ' ' :: rest)) (said : rest.trim ≠ [])
    (d : Diagram) :
    d.readLine (word ++ ' ' :: rest) = (do
      let color? ← Statement.readColor ((Statement.cutColor false rest).2.map Text.trim)
      d.perform ⟨word, (Statement.pieces false (Statement.cutColor false rest).1).map Text.trim,
        color?⟩) := by
  obtain ⟨c, first⟩ := List.exists_mem_of_ne_nil word plain.1
  have some : Text.trim (word ++ ' ' :: rest) ≠ [] :=
    Text.trim_ne_nil (List.mem_append_left _ first) (plain.2 c first).1
  rw [readLine_of_uncommented uncommented some, Statement.ofLine_of_word plain said, bind_assoc]
  rfl

end Diagram
end DiagramScript
