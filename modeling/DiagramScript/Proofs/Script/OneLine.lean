import DiagramScript.Proofs.Expression.Characters
import DiagramScript.Proofs.Script.Commands
import DiagramScript.Proofs.Script.Lines

/-! Expressions in scripts of one line. Whatever evaluates on its own is accepted as an argument and
keeps its value, and an expression without special characters is refused for its own cause. -/
namespace DiagramScript

def reserved : List Char := [',', '[', ']', '"', '!', '%', '@']

def Unreserved (text : Text) : Prop := ∀ c ∈ text, c ∉ reserved

theorem spells_reserved {c : Char} (special : c ∈ reserved) : spells c = false ∨ c = ',' := by
  simp only [reserved, List.mem_cons, List.not_mem_nil, or_false] at special
  rcases special with rfl | rfl | rfl | rfl | rfl | rfl | rfl <;> decide

theorem Expression.unreserved_of_value {text : Text} {v : Value}
    (evaluates : Expression.value text = .ok v) : Unreserved text := by
  intro c member special
  obtain ⟨spelled, other⟩ := Expression.spells_of_value evaluates c member
  rcases spells_reserved special with strange | comma
  · rw [spelled] at strange
    cases strange
  · exact other comma

namespace Unreserved

variable {text : Text}

theorem of_all (plain : text.all (!reserved.contains ·) = true) : Unreserved text := by
  intro c member
  simpa using List.all_eq_true.mp plain c member

theorem not_mem (plain : Unreserved text) {c : Char} (special : c ∈ reserved) : c ∉ text :=
  fun member => plain c member special

theorem trim (plain : Unreserved text) : Unreserved text.trim :=
  fun c member => plain c (Text.mem_of_mem_trim member)

theorem uncommented (plain : Unreserved text) : Uncommented false text :=
  uncommented_of_not_mem (plain.not_mem (by decide))

theorem whole (plain : Unreserved text) : Statement.Free ',' false text :=
  .of_not_mem (plain.not_mem (by decide))

theorem colorless (plain : Unreserved text) : Statement.Free '!' false text :=
  .of_not_mem (plain.not_mem (by decide))

theorem coordinate (plain : Unreserved text) (bindings : Bindings) :
    Argument.coordinate bindings text = (Argument.value text.trim).map Coordinate.ofComplex := by
  have trimmed := plain.trim
  rw [Argument.coordinate, Argument.coordinateTrimmed.eq_3]
  · rintro rest start
    exact trimmed.not_mem (by decide) (start ▸ List.mem_cons_self)
  · rintro rest start
    exact trimmed.not_mem (by decide) (start ▸ List.mem_cons_self)

end Unreserved

theorem IsName.of_letters {name : Text} (letters : ∀ c ∈ name, c.isAlpha = true) :
    IsName name := by
  refine .of_plain fun c member => ?_
  have letter := letters c member
  constructor
  · exact isBlank_of_continuesName
      (continuesName_of_startsName (by simp [startsName, letter]))
  · intro special
    simp only [List.mem_cons, List.not_mem_nil, or_false] at special
    rcases special with rfl | rfl | rfl | rfl | rfl | rfl <;> cases letter

namespace Argument

theorem value_eq_ok_iff {text : Text} {v : Value} :
    value text = .ok v ↔ Expression.value text = .ok v := by
  rw [value]
  cases Expression.value text <;> simp

theorem value_eq_error {text : Text} {error : ScriptError} (fails : value text = .error error) :
    ∃ cause, error = .invalidExpression text.trim cause ∧ Expression.value text = .error cause := by
  rw [value] at fails
  split at fails
  · cases fails
  · rename_i cause failed
    cases fails
    exact ⟨cause, rfl, failed⟩

theorem trim_ne_nil_of_value {text : Text} {v : Value} (evaluates : value text = .ok v) :
    text.trim ≠ [] := by
  intro blank
  have inside := Expression.value_trim (value_eq_ok_iff.mp evaluates)
  rw [blank] at inside
  simp only [Expression.value, Expression.read, tokenize, tokenizeFrom, bind_eq_ok_iff] at inside
  obtain ⟨tree, ⟨tokens, none, parsed⟩, _⟩ := inside
  cases none
  obtain ⟨operators, derived⟩ := Grammar.ofTokens_sound parsed
  obtain ⟨first, others, same, _⟩ := Grammar.sum_head derived
  cases same

theorem value_trim {text : Text} {v : Value} (evaluates : value text = .ok v) :
    value text.trim = .ok v :=
  value_eq_ok_iff.mpr (Expression.value_trim (value_eq_ok_iff.mp evaluates))

theorem value_zero : value "0".toList = .ok ⟨.zero false, .zero false⟩ := by
  decide +kernel

end Argument

namespace Diagram

theorem ofSource_of_single {line : Text} (single : '\n' ∉ line) (some : line ≠ []) :
    ofSource line =
      match empty.readLine line with
      | .ok d => .ok d
      | .error error => .error ⟨1, line, error⟩ := by
  rw [ofSource, Text.lines_of_single single some, readLines]
  rfl

theorem readLine_point_of_unreserved {expression : Text} (plain : Unreserved expression)
    (said : expression.trim ≠ []) (d : Diagram) :
    d.readLine ("point ".toList ++ expression) = (do
      let v ← Argument.value expression.trim
      .ok { d with points := d.points ++ [⟨.ofComplex v, none⟩] }) := by
  rw [readLine_point plain.uncommented said plain.whole plain.colorless,
    plain.trim.coordinate, Text.trim_trim]
  cases Argument.value expression.trim <;> rfl

theorem readLine_bindName_of_unreserved {name expression : Text} (named : IsName name)
    (plain : Unreserved expression) (d : Diagram) :
    d.readLine ("variable ".toList ++ (name ++ ", ".toList ++ expression)) = (do
      let v ← Argument.value expression.trim
      let bindings ← d.bindings.bind name (.ofComplex v)
      .ok { d with bindings }) := by
  have plain' : Unreserved (' ' :: expression) := List.forall_mem_cons.mpr ⟨by decide, plain⟩
  have line : "variable ".toList ++ (name ++ ", ".toList ++ expression) =
      "variable ".toList ++ (name ++ ',' :: ' ' :: expression) := by
    rw [List.append_assoc]
    rfl
  have same : Text.trim (' ' :: expression) = expression.trim :=
    Text.trim_of_blank_append (List.forall_mem_singleton.mpr rfl) expression
  rw [line, readLine_bindName named plain'.uncommented plain'.whole plain'.colorless, same,
    plain.trim.coordinate, Text.trim_trim]
  cases Argument.value expression.trim <;> rfl

/-- Expressions as the only argument of a line, and behind a name. The first part is about
whatever evaluates, the second one about whatever does not and has no reserved character. -/
theorem ofSource_of_expression {expression : Text} (single : '\n' ∉ expression) :
    (∀ v, Argument.value expression = .ok v →
      Unreserved expression ∧
      ofSource ("point ".toList ++ expression) =
        .ok { empty with points := [⟨.ofComplex v, none⟩] } ∧
      ∀ name : Text, (∀ c ∈ name, c.isAlpha = true) →
        ofSource ("variable ".toList ++ (name ++ ", ".toList ++ expression)) =
          .ok { empty with bindings := ⟨[(name, .ofComplex v)]⟩ }) ∧
    (expression.trim ≠ [] → Unreserved expression →
      ∀ error, Argument.value expression.trim = .error error →
        ∃ cause, error = .invalidExpression expression.trim cause ∧
          ofSource ("point ".toList ++ expression) =
            .error ⟨1, "point ".toList ++ expression,
              .invalidExpression expression.trim cause⟩) := by
  have point_single : '\n' ∉ "point ".toList ++ expression := by
    rw [List.mem_append, not_or]
    exact ⟨by decide, single⟩
  have point_some : "point ".toList ++ expression ≠ [] := List.cons_ne_nil _ _
  constructor
  · intro v evaluates
    have plain := Expression.unreserved_of_value (Argument.value_eq_ok_iff.mp evaluates)
    have said := Argument.trim_ne_nil_of_value evaluates
    have trimmed := Argument.value_trim evaluates
    refine ⟨plain, ?_, ?_⟩
    · rw [ofSource_of_single point_single point_some, readLine_point_of_unreserved plain said,
        trimmed]
      rfl
    · intro name letters
      have named : IsName name := .of_letters letters
      have line_single : '\n' ∉ "variable ".toList ++ (name ++ ", ".toList ++ expression) := by
        simp only [List.mem_append, not_or]
        exact ⟨by decide, ⟨named.single, by decide⟩, single⟩
      rw [ofSource_of_single line_single (List.cons_ne_nil _ _),
        readLine_bindName_of_unreserved named plain, trimmed]
      rfl
  · intro said plain error fails
    obtain ⟨cause, same, _⟩ := Argument.value_eq_error fails
    rw [Text.trim_trim] at same
    refine ⟨cause, same, ?_⟩
    rw [ofSource_of_single point_single point_some, readLine_point_of_unreserved plain said,
      fails, same]
    rfl

theorem ofSource_of_sum :
    ofSource "point  1 + 2i".toList =
        .ok { empty with points := [⟨⟨Binary64.one, Binary64.one + Binary64.one⟩, none⟩] } ∧
      ofSource "variable a,  1 + 2i".toList =
        .ok { empty with
          bindings := ⟨[("a".toList, ⟨Binary64.one, Binary64.one + Binary64.one⟩)]⟩ } ∧
      ofSource "point  1 + ".toList =
        .error ⟨1, "point  1 + ".toList, .invalidExpression "1 +".toList .unexpectedEnd⟩ := by
  have evaluates : Argument.value " 1 + 2i".toList =
      .ok ⟨Binary64.one, Binary64.one + Binary64.one⟩ := by decide +kernel
  have fails : Argument.value (Text.trim " 1 + ".toList) =
      .error (.invalidExpression "1 +".toList .unexpectedEnd) := by decide +kernel
  have sum : '\n' ∉ " 1 + 2i".toList := by decide
  have half : '\n' ∉ " 1 + ".toList := by decide
  obtain ⟨_, point, bound⟩ := (ofSource_of_expression sum).1 _ evaluates
  obtain ⟨cause, same, refused⟩ := (ofSource_of_expression half).2 (by decide)
    (.of_all rfl) _ fails
  cases same
  exact ⟨point, bound "a".toList (List.all_eq_true.mp rfl), refused⟩

end Diagram
end DiagramScript
