import DiagramScript.Proofs.Script.Words

/-! Lines that mark a point and lines that bind a name. A name can be any text that the scanner
passes over as one argument, whatever stands before it. -/
namespace DiagramScript

open Statement

/-- A text that the scanner reads as one whole argument, with nothing open behind it. -/
structure IsName (name : Text) : Prop where
  trimmed : name.trim = name
  single : '\n' ∉ name
  uncommented : Uncommented false name
  whole : Free ',' false name
  colorless : Free '!' false name
  closed : insideAfter false name = false

theorem IsName.of_plain {name : Text}
    (plain : ∀ c ∈ name, isBlank c = false ∧ c ∉ ['%', ',', '!', '[', ']', '"']) :
    IsName name where
  trimmed := Text.trim_of_solid fun c member => (plain c member).1
  single feed := by cases (plain _ feed).1
  uncommented := uncommented_of_not_mem fun member => (plain _ member).2 (by simp)
  whole := .of_not_mem fun member => (plain _ member).2 (by simp)
  colorless := .of_not_mem fun member => (plain _ member).2 (by simp)
  closed := by
    refine insideAfter_of_plain (fun c member literal => (plain c member).2 ?_) false
    simp only [List.mem_cons, List.not_mem_nil, or_false] at literal ⊢
    tauto

namespace Diagram

theorem readLine_point {place : Text} (plain : Uncommented false place) (said : place.trim ≠ [])
    (whole : Free ',' false place) (colorless : Free '!' false place) (d : Diagram) :
    d.readLine ("point ".toList ++ place) = (do
      let place ← Argument.coordinate d.bindings place.trim
      .ok { d with points := d.points ++ [⟨place, none⟩] }) := by
  have word : IsWord "point".toList := isWord_name .point
  have uncommented : Uncommented false ("point".toList ++ ' ' :: place) :=
    uncommented_append_iff.mpr ⟨rfl, uncommented_cons_iff.mpr ⟨by decide, plain⟩⟩
  have read := readLine_of_word word uncommented said d
  rw [cutColor_of_free colorless, pieces_of_free whole] at read
  exact read

theorem readLine_bindName {name value : Text} (named : IsName name)
    (plain : Uncommented false value) (whole : Free ',' false value)
    (colorless : Free '!' false value) (d : Diagram) :
    d.readLine ("variable ".toList ++ (name ++ ',' :: value)) = (do
      let value ← Argument.coordinate d.bindings value.trim
      let bindings ← d.bindings.bind name value
      .ok { d with bindings }) := by
  have word : IsWord "variable".toList := isWord_name .bindName
  have uncommented : Uncommented false ("variable".toList ++ ' ' :: (name ++ ',' :: value)) := by
    refine uncommented_append_iff.mpr ⟨rfl, uncommented_cons_iff.mpr ⟨by decide, ?_⟩⟩
    refine uncommented_append_iff.mpr ⟨named.uncommented, uncommented_cons_iff.mpr ⟨?_, plain⟩⟩
    exact fun comma => absurd comma.1 (by decide)
  have said : Text.trim (name ++ ',' :: value) ≠ [] :=
    Text.trim_ne_nil (List.mem_append_right _ List.mem_cons_self) rfl
  have free : Free '!' false (name ++ ',' :: value) := by
    refine Free.append_iff.mpr ⟨named.colorless, ?_⟩
    rw [named.closed]
    exact ⟨by decide, colorless⟩
  have cut : pieces false (name ++ ',' :: value) = [name, value] := by
    rw [pieces_append_of_free named.whole, named.closed, pieces, if_pos ⟨rfl, rfl⟩,
      pieces_of_free whole, List.modifyHead_cons, List.append_nil]
  have read := readLine_of_word word uncommented said d
  rw [cutColor_of_free free, cut, List.map_cons, List.map_singleton, named.trimmed] at read
  exact read

end Diagram
end DiagramScript
