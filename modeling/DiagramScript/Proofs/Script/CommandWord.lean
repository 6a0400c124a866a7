import DiagramScript.Proofs.Script.Records
import DiagramScript.Proofs.Script.Words

/-! Where the command word stands. It ends at the first space of the line, but arguments with their
commas can stand in front of it, and such a line is read as if they stood behind. Main statement:
`Statement.command_at_first_space`. -/
namespace DiagramScript.Statement

theorem exists_early {text last : Text} {init : List Text}
    (cut : pieces false text = init ++ [last]) :
    ∃ early, text = early ++ last ∧ Free ',' false last ∧ insideAfter false early = false ∧
      (early = [] ↔ init = []) ∧
      ∀ right, pieces false (early ++ right) = init ++ pieces false right := by
  induction init generalizing text with
  | nil =>
    obtain ⟨rfl, free⟩ := free_of_pieces cut
    exact ⟨[], rfl, free, rfl, by simp, fun right => rfl⟩
  | cons first init ih =>
    obtain ⟨second, others, more⟩ : ∃ second others, init ++ [last] = second :: others :=
      List.exists_cons_of_ne_nil (List.append_ne_nil_of_right_ne_nil init (List.cons_ne_nil _ _))
    rw [List.cons_append, more] at cut
    obtain ⟨rest, rfl, free_first, outside, cut'⟩ := split_of_pieces cut
    obtain ⟨early, rfl, free, closed, _, onward⟩ := ih (cut'.trans more.symm)
    refine ⟨first ++ ',' :: early, by simp, free, ?_, by simp, fun right => ?_⟩
    · rw [insideAfter_append, outside]
      exact closed
    · rw [List.append_assoc, pieces_append_of_free free_first, outside, List.cons_append, pieces,
        if_pos ⟨rfl, rfl⟩, onward, List.modifyHead_cons, List.append_nil, List.cons_append]

theorem eq_of_first_space {front front' rest rest' : Text} (no_space : ' ' ∉ front)
    (no_space' : ' ' ∉ front') (same : front ++ ' ' :: rest = front' ++ ' ' :: rest') :
    front = front' := by
  have taken {front rest : Text} (no_space : ' ' ∉ front) :
      (front ++ ' ' :: rest).takeWhile (· != ' ') = front := by
    have kept : ∀ c ∈ front, (c != ' ') = true := by
      intro c member
      exact bne_iff_ne.mpr fun space => no_space (space ▸ member)
    rw [List.takeWhile_append_of_pos kept]
    simp
  rw [← taken no_space, same, taken no_space']

theorem trim_ne_nil_of_trim {line front rest : Text} (shape : line.trim = front ++ ' ' :: rest)
    (before : Text) : (before ++ rest).trim ≠ [] := by
  rcases List.eq_nil_or_concat rest with rfl | ⟨init, c, rfl⟩
  · cases Text.isBlank_last_trim shape
  · rw [List.concat_eq_append] at shape ⊢
    have last : line.trim = (front ++ ' ' :: init) ++ [c] := by simpa using shape
    exact Text.trim_ne_nil (by simp) (Text.isBlank_last_trim last)

theorem ofLine_of_early {line early word rest : Text} {init : List Text} (plain : IsWord word)
    (shape : line.trim = early ++ (word ++ ' ' :: rest)) (no_space : ' ' ∉ early ++ word)
    (colorless : Free '!' false early) (closed : insideAfter false early = false)
    (onward : ∀ right, pieces false (early ++ right) = init ++ pieces false right) :
    ofLine line = ofLine (word ++ ' ' :: (early ++ rest)) := by
  have shape' : line.trim = (early ++ word) ++ ' ' :: rest := by rw [shape, List.append_assoc]
  have colorless' : Free '!' false (early ++ word) :=
    Free.append_iff.mpr ⟨colorless, free_of_isWord plain (by simp) _⟩
  have cut : pieces false (early ++ word) = init ++ [word] := by
    rw [onward, pieces_of_free (free_of_isWord plain (by simp) _)]
  have closed' : insideAfter false (early ++ word) = false := by
    rw [insideAfter_append, insideAfter_of_isWord plain, closed]
  rw [ofLine_of_front shape' no_space colorless' cut,
    ofLine_of_word plain (trim_ne_nil_of_trim shape' early), cutColor_append_of_free colorless,
    closed, closed', onward]

/-- A line has arguments when a space stands outside its color. The command is then what stands
right before the first space, behind the last comma there; it comes first in the line exactly when
there is no such comma. The pieces before it are arguments, and with the word of a command behind
them the line is read as the one with the word in front. -/
theorem command_at_first_space {line : Text} {statement : Statement}
    (read : ofLine line = .ok statement) :
    (statement.arguments ≠ [] ↔ ' ' ∈ (cutColor false line.trim).1) ∧
      (statement.arguments ≠ [] → ∃ early rest init,
        line.trim = early ++ (statement.command ++ ' ' :: rest) ∧
        ' ' ∉ early ++ statement.command ∧ Free ',' false statement.command ∧
        (Free ',' false (early ++ statement.command) ↔ early = []) ∧
        (statement.command ++ [' '] <+: line.trim ↔ early = []) ∧
        (early = [] ↔ init = []) ∧ pieces false early = init ++ [[]] ∧
        statement.arguments = (init ++ pieces (insideAfter false statement.command)
          (cutColor (insideAfter false statement.command) rest).1).map Text.trim ∧
        ∀ command : Command, statement.command = command.name →
          ofLine line = ofLine (statement.command ++ ' ' :: (early ++ rest))) := by
  refine ⟨arguments_ne_nil_iff read, fun given => ?_⟩
  obtain ⟨front, rest, init, shape, no_space, colorless, cut, arguments⟩ := ofLine_eq_ok read given
  obtain ⟨early, rfl, free, closed, none, onward⟩ := exists_early cut
  rw [insideAfter_append, closed] at arguments
  have shape' : line.trim = early ++ (statement.command ++ ' ' :: rest) := by
    rw [shape, List.append_assoc]
  refine ⟨early, rest, init, shape', no_space, free, ?_, ?_, none, ?_, arguments, ?_⟩
  · constructor
    · intro whole
      rw [pieces_of_free whole] at cut
      exact none.mpr (List.append_inj' (cut.symm.trans (List.nil_append _).symm) rfl).1
    · rintro rfl
      exact free
  · constructor
    · rintro ⟨rest', same⟩
      have same' : statement.command ++ ' ' :: rest' =
          (early ++ statement.command) ++ ' ' :: rest := by
        rw [← shape, ← same, List.append_assoc, List.singleton_append]
      have first := eq_of_first_space (fun space => no_space (List.mem_append_right _ space))
        no_space same'
      exact List.append_left_eq_self.mp first.symm
    · rintro rfl
      exact ⟨rest, by simp [shape']⟩
  · simpa [pieces] using onward []
  · intro command word
    have plain : IsWord statement.command := word ▸ isWord_name command
    exact ofLine_of_early plain shape' no_space (Free.append_iff.mp colorless).1 closed onward

/-- The name stands in front of the command word that binds it. -/
theorem argument_before_command :
    ofLine "a,variable 1".toList = .ok ⟨"variable".toList, ["a".toList, "1".toList], none⟩ ∧
      ¬"variable ".toList <+: Text.trim "a,variable 1".toList ∧
      Diagram.ofSource "a,variable 1".toList =
        .ok { Diagram.empty with bindings := ⟨[("a".toList, ⟨.one, .zero false⟩)]⟩ } := by
  decide +kernel

theorem command_at_first_space_behind_comma :
    ∃ early rest,
      Text.trim "a,variable 1".toList = early ++ ("variable".toList ++ ' ' :: rest) ∧
        early ≠ [] ∧
        ofLine "a,variable 1".toList = ofLine ("variable".toList ++ ' ' :: (early ++ rest)) := by
  have read : ofLine "a,variable 1".toList =
      .ok ⟨"variable".toList, ["a".toList, "1".toList], none⟩ := by decide +kernel
  obtain ⟨early, rest, _, shape, _, _, _, first, _, _, _, moved⟩ :=
    (command_at_first_space read).2 (List.cons_ne_nil _ _)
  have behind : early ≠ [] := mt first.mpr (by decide +kernel)
  exact ⟨early, rest, shape, behind, moved .bindName rfl⟩

end DiagramScript.Statement
