import DiagramScript.Proofs.Script.Colors
import DiagramScript.Proofs.Script.Commands
import DiagramScript.Proofs.Script.Escapes
import DiagramScript.Proofs.Script.OneLine

/-! Lines that write a label. The text of a label stands between quotes, with escapes for what a
line cannot hold, and it comes out as it was: `Diagram.ofSource_of_label`. -/
namespace DiagramScript

open Statement

def quote (text : Text) : Text := '"' :: (text ++ ['"'])

def closers : List Char := [']', '"']

namespace Statement

theorem free_inside {text : Text} (kept : ∀ c ∈ text, c ∉ closers) (mark : Char) :
    Free mark true text ∧ insideAfter true text = true := by
  induction text with
  | nil => exact ⟨trivial, rfl⟩
  | cons c rest ih =>
    obtain ⟨here, later⟩ := List.forall_mem_cons.mp kept
    simp only [closers, List.mem_cons, List.not_mem_nil, or_false, not_or] at here
    have stays : Draft.literalAfter true c = true := by
      simp [Draft.literalAfter, here]
    have step : insideAfter true (c :: rest) = insideAfter (Draft.literalAfter true c) rest := rfl
    obtain ⟨free, inside⟩ := ih later
    rw [Free, step, stays]
    exact ⟨⟨fun outside => Bool.noConfusion outside.2, free⟩, inside⟩

theorem free_quote {text : Text} (kept : ∀ c ∈ text, c ∉ closers) {mark : Char}
    (other : '"' ≠ mark) : Free mark false (quote text) := by
  refine ⟨fun same => other same.1, Free.append_iff.mpr ⟨(free_inside kept mark).1, ?_⟩⟩
  exact ⟨fun same => other same.1, trivial⟩

theorem insideAfter_quote {text : Text} (kept : ∀ c ∈ text, c ∉ closers) :
    insideAfter false (quote text) = false := by
  have opened : insideAfter false (quote text) = insideAfter true (text ++ ['"']) := rfl
  rw [opened, insideAfter_append, (free_inside kept ',').2]
  rfl

theorem cutColor_colorPart {text : Text} (free : Free '!' false text)
    (closed : insideAfter false text = false) (mark? : Option Text) :
    cutColor false (text ++ colorPart mark?) = (text, mark?) := by
  rw [cutColor_append_of_free free, closed]
  cases mark? <;> simp [colorPart, cutColor]

end Statement

theorem uncommented_quote {text : Text} (plain : Uncommented false text) :
    Uncommented false (quote text) := by
  refine uncommented_cons_of_ne (by decide) (by decide) (uncommented_append_iff.mpr ⟨plain, ?_⟩)
  exact uncommented_cons_of_ne (by decide) (by decide) rfl

theorem escapedAfter_quote (text : Text) : escapedAfter false (quote text) = false := by
  simp [quote, escapedAfter]

namespace Argument

theorem trim_quote (text : Text) : (quote text).trim = quote text :=
  Text.trim_cons_append rfl text rfl (List.cons_ne_nil _ _)

theorem label_quote (text : Text) : label (quote text) = decodeEscapes text := by
  rw [label, trim_quote, quote, unquote, List.isSuffixOf?_eq_some_iff_append_eq.mpr rfl]
  rfl

end Argument

namespace Diagram

/-- A line that writes a quoted text at some place, in the color behind the mark if there is one. -/
def labelLine (place words : Text) (mark? : Option Text) : Text :=
  Command.text.name ++ ' ' :: (place ++ ',' :: ' ' :: quote words ++ colorPart mark?)

theorem readLine_label {place words : Text} {mark? : Option Text} (named : IsName place)
    (kept : ∀ c ∈ words, c ∉ closers) (plain : Uncommented false words)
    (plain_mark : Uncommented false (colorPart mark?)) (d : Diagram) :
    d.readLine (labelLine place words mark?) = (do
      let color? ← readColor (mark?.map Text.trim)
      let place ← Argument.coordinate d.bindings place
      let text := Argument.decodeEscapes words
      .ok { d with labels := d.labels ++ [⟨place, text, color?.getD Color.black⟩] }) := by
  -- Every scanner passes over the quoted text: the one for comments, for colors and for commas.
  have uncommented : Uncommented false (labelLine place words mark?) := by
    refine uncommented_append_iff.mpr ⟨rfl, uncommented_cons_of_ne (by decide) (by decide) ?_⟩
    rw [List.append_assoc, uncommented_append_iff]
    refine ⟨named.uncommented, uncommented_cons_of_ne (by decide) (by decide) ?_⟩
    refine uncommented_cons_of_ne (by decide) (by decide) (uncommented_append_iff.mpr ?_)
    exact ⟨uncommented_quote plain, by rwa [escapedAfter_quote]⟩
  have said : Text.trim (place ++ ',' :: ' ' :: quote words ++ colorPart mark?) ≠ [] := by
    rw [List.append_assoc]
    exact Text.trim_ne_nil (List.mem_append_right _ List.mem_cons_self) rfl
  have free : Free '!' false (place ++ ',' :: ' ' :: quote words) := by
    rw [Free.append_iff, named.closed]
    exact ⟨named.colorless, by decide, by decide, free_quote kept (by decide)⟩
  have closed : insideAfter false (place ++ ',' :: ' ' :: quote words) = false := by
    rw [insideAfter_append, named.closed]
    exact insideAfter_quote kept
  have cut : pieces false (place ++ ',' :: ' ' :: quote words) = [place, ' ' :: quote words] := by
    have whole : Free ',' false (' ' :: quote words) :=
      ⟨by decide, free_quote kept (by decide)⟩
    rw [pieces_append_of_free named.whole, named.closed, pieces, if_pos ⟨rfl, rfl⟩,
      pieces_of_free whole, List.modifyHead_cons, List.append_nil]
  have trimmed : Text.trim (' ' :: quote words) = quote words :=
    (Text.trim_of_blank_append (List.forall_mem_singleton.mpr rfl) _).trans
      (Argument.trim_quote words)
  have read := readLine_of_word (isWord_name .text) uncommented said d
  rw [cutColor_colorPart free closed, cut, List.map_cons, List.map_singleton, named.trimmed,
    trimmed] at read
  rw [labelLine, read, ← Argument.label_quote]
  rfl

end Diagram

namespace Argument.Writable

variable {text : Text}

theorem kept (writable : Writable text) : ∀ c ∈ encodeEscapes text, c ∉ closers := by
  intro c member closes
  rcases mem_encodeEscapes member with brought | ⟨own, _⟩
  · simp only [List.mem_cons, List.not_mem_nil, or_false] at brought
    rcases brought with rfl | rfl | rfl | rfl <;> exact absurd closes (by decide)
  · simp only [closers, List.mem_cons, List.not_mem_nil, or_false] at closes
    rcases closes with rfl | rfl
    · exact writable.bracket own
    · exact writable.quote own

end Argument.Writable

namespace Diagram

theorem ofSource_labelLine {text : Text} (writable : Argument.Writable text)
    (mark? : Option Text) (single : '\n' ∉ colorPart mark?)
    (plain : Uncommented false (colorPart mark?)) (color? : Option Color)
    (color : readColor (mark?.map Text.trim) = .ok color?) :
    ofSource (labelLine "0".toList (Argument.encodeEscapes text) mark?) =
      .ok { empty with
        labels := [⟨⟨.zero false, .zero false⟩, text, color?.getD Color.black⟩] } := by
  have zero : Argument.coordinate Bindings.empty "0".toList =
      .ok ⟨.zero false, .zero false⟩ := by
    have trimmed : Text.trim "0".toList = "0".toList := by decide
    have plain : Unreserved "0".toList := .of_all rfl
    rw [plain.coordinate, trimmed, Argument.value_zero]
    rfl
  have named : IsName "0".toList := by
    refine .of_plain fun c member => ?_
    obtain rfl : c = '0' := by simpa using member
    decide
  have line_single : '\n' ∉ labelLine "0".toList (Argument.encodeEscapes text) mark? := by
    have text_single := Argument.feed_not_mem_encodeEscapes text
    simp only [labelLine, quote, List.mem_append, List.mem_cons, not_or]
    refine ⟨by decide, by decide, ⟨by decide, by decide, by decide, ?_⟩, single⟩
    exact ⟨by decide, text_single, by decide⟩
  have read := readLine_label named writable.kept writable.uncommented plain empty
  rw [color, Argument.decodeEscapes_encodeEscapes writable.letters] at read
  have done : empty.readLine (labelLine "0".toList (Argument.encodeEscapes text) mark?) =
      .ok { empty with
        labels := [⟨⟨.zero false, .zero false⟩, text, color?.getD Color.black⟩] } := by
    refine read.trans ?_
    change (Argument.coordinate Bindings.empty "0".toList >>= _) = _
    rw [zero]
    rfl
  rw [ofSource_of_single line_single (List.cons_ne_nil _ _), done]

/-- Every text that can be written comes out as it was, in black or in the color that is asked
for. -/
theorem ofSource_of_label {text : Text} (writable : Argument.Writable text) :
    ofSource (labelLine "0".toList (Argument.encodeEscapes text) none) =
        .ok { empty with labels := [⟨⟨.zero false, .zero false⟩, text, Color.black⟩] } ∧
      ∀ name color, Color.ofText name = .ok color →
        color.text = name.lowercase ∧
          ofSource (labelLine "0".toList (Argument.encodeEscapes text) (some name)) =
            .ok { empty with labels := [⟨⟨.zero false, .zero false⟩, text, color⟩] } := by
  constructor
  · exact ofSource_labelLine writable none List.not_mem_nil rfl none rfl
  · intro name color accepted
    have plain := Color.plain_of_ofText accepted
    have trimmed : name.trim = name := Text.trim_of_solid fun c member => (plain c member).1
    have single : '\n' ∉ colorPart (some name) := by
      rw [colorPart, List.mem_cons, not_or]
      exact ⟨by decide, fun feed => Bool.noConfusion (plain _ feed).1⟩
    have uncommented : Uncommented false (colorPart (some name)) := by
      refine uncommented_of_not_mem ?_
      rw [colorPart, List.mem_cons, not_or]
      exact ⟨by decide, fun sign => (plain _ sign).2 rfl⟩
    refine ⟨by rw [(Color.ofText_eq_ok_iff.mp accepted).2], ?_⟩
    refine ofSource_labelLine writable (some name) single uncommented (some color) ?_
    rw [Option.map_some, trimmed, readColor, accepted]
    rfl

theorem ofSource_of_backslashes :
    ofSource "text 0, \"\\\\n50\\% \\\\\\%!,[\r\\\"".toList =
        .ok { empty with
          labels := [⟨⟨.zero false, .zero false⟩, "\\\n50% \\\\%!,[\r\\".toList, .black⟩] } ∧
      ofSource "text 0, \"\\\\n50\\% \\\\\\%!,[\r\\\"!Red".toList =
        .ok { empty with
          labels := [⟨⟨.zero false, .zero false⟩, "\\\n50% \\\\%!,[\r\\".toList,
            ⟨"red".toList⟩⟩] } := by
  have writable : Argument.Writable "\\\n50% \\\\%!,[\r\\".toList :=
    ⟨by decide, by decide, by decide +kernel, by decide +kernel⟩
  have written : Argument.encodeEscapes "\\\n50% \\\\%!,[\r\\".toList =
      "\\\\n50\\% \\\\\\%!,[\r\\".toList := by decide +kernel
  have line : labelLine "0".toList "\\\\n50\\% \\\\\\%!,[\r\\".toList none =
      "text 0, \"\\\\n50\\% \\\\\\%!,[\r\\\"".toList := by decide +kernel
  have line_red : labelLine "0".toList "\\\\n50\\% \\\\\\%!,[\r\\".toList (some "Red".toList) =
      "text 0, \"\\\\n50\\% \\\\\\%!,[\r\\\"!Red".toList := by decide +kernel
  have red : Color.ofText "Red".toList = .ok ⟨"red".toList⟩ := by decide +kernel
  obtain ⟨black, colored⟩ := ofSource_of_label writable
  have result := (colored _ _ red).2
  rw [written, line] at black
  rw [written, line_red] at result
  exact ⟨black, result⟩

end Diagram
end DiagramScript
