import DiagramScript.Proofs.Script.FailFast

/-! The contents of a source: what its lines say, one after the other, without comments and the
white space around. A run depends on them alone, up to the numbers of the lines. -/
namespace DiagramScript

namespace Text

def EndOfLine (after : Text) : Prop :=
  after = [] ∨ ∃ rest, after = '\n' :: rest ∨ after = '\r' :: '\n' :: rest

theorem exists_last_line (text : Text) :
    ∃ before line, text = before ++ line ∧ before.EndsLine ∧ '\n' ∉ line := by
  induction text using List.reverseRecOn with
  | nil => exact ⟨[], [], rfl, .inl rfl, List.not_mem_nil⟩
  | append_singleton init c ih =>
    by_cases feed : c = '\n'
    · subst feed
      exact ⟨init ++ ['\n'], [], by simp, .inr ⟨init, rfl⟩, List.not_mem_nil⟩
    · obtain ⟨before, line, rfl, closed, single⟩ := ih
      exact ⟨before, line ++ [c], by simp, closed, by simp [single, Ne.symm feed]⟩

theorem lines_single_feed {line : Text} (single : '\n' ∉ line) :
    ∃ line', lines (line ++ ['\n']) = [line'] ∧ (line = line' ∨ line = line' ++ ['\r']) := by
  induction line with
  | nil => exact ⟨[], rfl, .inl rfl⟩
  | cons c rest ih =>
    obtain ⟨here, later⟩ := not_or.mp (mt List.mem_cons.mpr single)
    by_cases ends : c = '\r' ∧ rest = []
    · obtain ⟨rfl, rfl⟩ := ends
      exact ⟨[], rfl, .inr rfl⟩
    · have apart : c = '\r' → ∀ rest', rest ++ ['\n'] ≠ '\n' :: rest' := by
        rintro same rest' start
        cases rest with
        | nil => exact ends ⟨same, rfl⟩
        | cons c' rest =>
          cases List.head_eq_of_cons_eq start
          exact later List.mem_cons_self
      obtain ⟨line', cut, same⟩ := ih later
      refine ⟨c :: line', ?_, same.imp (congrArg (c :: ·)) (congrArg (c :: ·))⟩
      rw [List.cons_append, lines_cons (Ne.symm here) apart, cut]
      rfl

end Text

namespace Diagram

theorem content_blank_append {blank : Text} (white : blank.Blank) (line : Text) :
    content (blank ++ line) = content line := by
  simp only [content, Text.trim_of_blank_append white]

theorem content_eq (line : Text) : content line = (beforeComment false line).trim := by
  obtain ⟨lead, tail, before, after, split⟩ := line.exists_trim
  conv_rhs => rw [split]
  rw [beforeComment_append_of_uncommented (uncommented_of_blank before),
    escapedAfter_of_blank before, Text.trim_of_blank_append before]
  by_cases plain : Uncommented false line.trim
  · have kept : beforeComment false line.trim = line.trim := plain
    have kept_tail : beforeComment (escapedAfter false line.trim) tail = tail :=
      uncommented_of_blank after
    rw [beforeComment_append_of_uncommented plain, kept_tail, Text.trim_append_of_blank after,
      content, stripComment, kept]
  · rw [beforeComment_append_of_commented plain]
    rfl

theorem content_append_comment (line words : Text) :
    content (line ++ ' ' :: '%' :: words) = content line := by
  rw [content_eq, content_eq]
  by_cases plain : Uncommented false line
  · have kept : beforeComment false line = line := plain
    have cut : beforeComment (escapedAfter false line) (' ' :: '%' :: words) = [' '] := by
      simp [beforeComment]
    rw [beforeComment_append_of_uncommented plain, cut, kept,
      Text.trim_append_of_blank (List.forall_mem_singleton.mpr rfl)]
  · rw [beforeComment_append_of_commented plain]

/-- What the lines of a source say, also where they say nothing. -/
def contents (source : Text) : List Text := source.lines.map content

theorem contents_append {before : Text} (closed : before.EndsLine) (after : Text) :
    contents (before ++ after) = contents before ++ contents after := by
  rw [contents, Text.lines_append closed, List.map_append]
  rfl

theorem contents_line {line : Text} (single : '\n' ∉ line) (rest : Text) :
    contents (line ++ '\n' :: rest) = content line :: contents rest := by
  obtain ⟨line', cut, same⟩ := Text.lines_single_feed single
  have said : content line' = content line := by
    rcases same with rfl | rfl
    · rfl
    · exact (content_append_blank (List.forall_mem_singleton.mpr rfl) line').symm
  rw [contents, Text.lines_append_feed, cut, List.map_append, List.map_singleton, said]
  rfl

theorem contents_single {line : Text} (single : '\n' ∉ line) (some : line ≠ []) :
    contents line = [content line] := by
  rw [contents, Text.lines_of_single single some]
  rfl

/-- What follows the end of a line says the same behind every line. -/
theorem exists_contents_behind {after : Text} (ends : after.EndOfLine) :
    ∃ later, ∀ line : Text, '\n' ∉ line → (line = [] → after ≠ []) →
      contents (line ++ after) = content line :: later := by
  rcases ends with rfl | ⟨rest, rfl | rfl⟩
  · refine ⟨[], fun line single some => ?_⟩
    have some' : line ≠ [] := fun none => some none rfl
    rw [List.append_nil, contents_single single some']
  · exact ⟨contents rest, fun line single _ => contents_line single rest⟩
  · refine ⟨contents rest, fun line single _ => ?_⟩
    have single' : '\n' ∉ line ++ ['\r'] := by simp [single]
    have said := contents_line single' rest
    rwa [content_append_blank (List.forall_mem_singleton.mpr rfl), List.append_assoc] at said

theorem said_lines (source : Text) : said source.lines = (contents source).filter (· ≠ []) := rfl

end Diagram
end DiagramScript
