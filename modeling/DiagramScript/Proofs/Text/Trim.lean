import DiagramScript.Text.Blank
import Mathlib.Data.List.DropRight

/-! Text and the white space around it. A text is what is left of it by trimming, between two runs
of white space, and white space that is added at its ends is trimmed away again. -/
namespace DiagramScript.Text

def Blank (text : Text) : Prop := ∀ c ∈ text, isBlank c = true

theorem trim_eq (text : Text) : text.trim = (text.dropWhile isBlank).rdropWhile isBlank := rfl

theorem rdropWhile_append_of_blank {tail : Text} (blank : Blank tail) (text : Text) :
    (text ++ tail).rdropWhile isBlank = text.rdropWhile isBlank := by
  have blank' : ∀ c ∈ tail.reverse, isBlank c = true := by
    intro c member
    exact blank c (List.mem_reverse.mp member)
  rw [List.rdropWhile, List.reverse_append, List.dropWhile_append_of_pos blank', List.rdropWhile]

theorem trim_append_of_blank {tail : Text} (blank : Blank tail) (text : Text) :
    (text ++ tail).trim = text.trim := by
  rw [trim_eq, trim_eq, List.dropWhile_append]
  split
  · rename_i nothing
    rw [List.isEmpty_iff.mp nothing, List.dropWhile_eq_nil_iff.mpr blank]
  · exact rdropWhile_append_of_blank blank _

theorem trim_of_blank_append {lead : Text} (blank : Blank lead) (text : Text) :
    (lead ++ text).trim = text.trim := by
  rw [trim_eq, trim_eq, List.dropWhile_append_of_pos blank]

theorem trim_split (text : Text) :
    ∃ tail, Blank tail ∧ text = text.takeWhile isBlank ++ (text.trim ++ tail) := by
  refine ⟨(text.dropWhile isBlank).rtakeWhile isBlank, ?_, ?_⟩
  · intro c member
    exact List.mem_rtakeWhile_imp member
  · have split : (text.dropWhile isBlank).rdropWhile isBlank ++
        (text.dropWhile isBlank).rtakeWhile isBlank = text.dropWhile isBlank := by
      rw [List.rdropWhile, List.rtakeWhile, ← List.reverse_append,
        List.takeWhile_append_dropWhile, List.reverse_reverse]
    rw [trim_eq, split, List.takeWhile_append_dropWhile]

theorem blank_takeWhile (text : Text) : Blank (text.takeWhile isBlank) :=
  fun _ member => List.mem_takeWhile_imp member

theorem exists_trim (text : Text) :
    ∃ lead tail, Blank lead ∧ Blank tail ∧ text = lead ++ (text.trim ++ tail) := by
  obtain ⟨tail, blank, split⟩ := text.trim_split
  exact ⟨_, tail, text.blank_takeWhile, blank, split⟩

theorem mem_of_mem_trim {text : Text} {c : Char} (member : c ∈ text.trim) : c ∈ text := by
  obtain ⟨lead, tail, _, _, split⟩ := text.exists_trim
  rw [split]
  exact List.mem_append_right _ (List.mem_append_left _ member)

theorem trim_ne_nil {text : Text} {c : Char} (member : c ∈ text) (plain : isBlank c = false) :
    text.trim ≠ [] := by
  intro none
  obtain ⟨lead, tail, before, after, split⟩ := text.exists_trim
  rw [none, List.nil_append] at split
  rw [split] at member
  rcases List.mem_append.mp member with here | here
  · simp [before c here] at plain
  · simp [after c here] at plain

theorem trim_eq_self {text : Text}
    (first : ∀ c rest, text = c :: rest → isBlank c = false)
    (last : ∀ init c, text = init ++ [c] → isBlank c = false) : text.trim = text := by
  have start : text.dropWhile isBlank = text := by
    rcases text with _ | ⟨c, rest⟩
    · rfl
    · rw [List.dropWhile_cons, first c rest rfl]
      rfl
  rw [trim_eq, start, List.rdropWhile_eq_self_iff]
  intro some
  rw [last _ _ (List.dropLast_append_getLast some).symm]
  exact Bool.false_ne_true

theorem trim_of_solid {text : Text} (solid : ∀ c ∈ text, isBlank c = false) : text.trim = text := by
  refine trim_eq_self ?_ ?_
  · rintro c rest rfl
    exact solid c List.mem_cons_self
  · rintro init c rfl
    exact solid c (List.mem_append_right _ List.mem_cons_self)

theorem isBlank_head_trim {text rest : Text} {c : Char} (head : text.trim = c :: rest) :
    isBlank c = false := by
  obtain ⟨tail, split⟩ : text.trim <+: text.dropWhile isBlank := List.rdropWhile_prefix ..
  have facts := List.head?_dropWhile_not isBlank text
  rw [← split, head] at facts
  exact facts

theorem isBlank_last_trim {text init : Text} {c : Char} (last : text.trim = init ++ [c]) :
    isBlank c = false := by
  have some : text.trim ≠ [] := by simp [last]
  have facts := List.rdropWhile_last_not isBlank (text.dropWhile isBlank) some
  simp only [← trim_eq, last, List.getLast_append_singleton, Bool.not_eq_true] at facts
  exact facts

theorem trim_trim (text : Text) : text.trim.trim = text.trim :=
  trim_eq_self (fun _ _ => isBlank_head_trim) (fun _ _ => isBlank_last_trim)

theorem trim_cons_append {c : Char} {text : Text} (plain : isBlank c = false) (middle : Text)
    (trimmed : text.trim = text) (some : text ≠ []) :
    trim (c :: (middle ++ text)) = c :: (middle ++ text) := by
  refine trim_eq_self ?_ ?_
  · intro c' rest same
    cases same
    exact plain
  · intro init c' same
    rcases List.eq_nil_or_concat text with none | ⟨init', c'', rfl⟩
    · exact absurd none some
    · have same' : (c :: (middle ++ init')) ++ [c''] = init ++ [c'] := by
        rw [← same, List.concat_eq_append, List.cons_append, List.append_assoc]
      have last := (List.append_inj' same' rfl).2
      cases last
      exact isBlank_last_trim (trimmed.trans List.concat_eq_append)

theorem behind_blank {lead text front back : Text} {c : Char} (blank : lead.Blank)
    (solid : isBlank c = false) (split : lead ++ text = front ++ c :: back) :
    ∃ extra, front = lead ++ extra ∧ text = extra ++ c :: back := by
  rcases List.append_eq_append_iff.mp split with ⟨extra, same, rest⟩ | ⟨extra, same, rest⟩
  · exact ⟨extra, same, rest⟩
  · rcases extra with _ | ⟨c', extra⟩
    · exact ⟨[], by simpa using same.symm, by simpa using rest.symm⟩
    · -- The character would be part of the white space.
      obtain ⟨rfl, -⟩ := List.cons.inj rest
      rw [blank c (by simp [same])] at solid
      cases solid

theorem before_blank {text tail front back : Text} {c : Char} (blank : tail.Blank)
    (solid : isBlank c = false) (split : text ++ tail = front ++ c :: back) :
    ∃ extra, text = front ++ c :: extra := by
  rcases List.append_eq_append_iff.mp split with ⟨extra, _, rest⟩ | ⟨extra, same, rest⟩
  · rw [blank c (by simp [rest])] at solid
    cases solid
  · rcases extra with _ | ⟨c', extra⟩
    · have whole : c :: back = tail := rest
      rw [blank c (whole ▸ List.mem_cons_self)] at solid
      cases solid
    · obtain ⟨rfl, -⟩ := List.cons.inj rest
      exact ⟨extra, same⟩

end DiagramScript.Text
