import DiagramScript.Proofs.Script.Colors
import DiagramScript.Proofs.Script.Words

/-! The parts of a line. What the scanner makes of a line is said here by the places of its commas
and of the mark of its color, and nothing of the line is lost, made up or moved. Main statement:
`Statement.ofLine_faithful`. -/
namespace DiagramScript.Statement

open Draft (literalAfter)

/-- What a character does to the flag that tells whether a place is inside brackets or quotes. -/
inductive Turns : Bool → Char → Bool → Prop
  | opening {inside} : Turns inside '[' true
  | closing {inside} : Turns inside ']' false
  | quote {inside} : Turns inside '"' !inside
  | other {inside c} : c ∉ ['[', ']', '"'] → Turns inside c inside

inductive Scans : Bool → Text → Bool → Prop
  | nil {inside} : Scans inside [] inside
  | cons {inside c inside' rest inside''} : Turns inside c inside' → Scans inside' rest inside'' →
      Scans inside (c :: rest) inside''

theorem turns_literalAfter (inside : Bool) (c : Char) : Turns inside c (literalAfter inside c) := by
  unfold literalAfter
  split_ifs with opening closing quote
  · exact opening ▸ .opening
  · exact closing ▸ .closing
  · exact quote ▸ .quote
  · exact .other (by simp [opening, closing, quote])

theorem Turns.literalAfter_eq {inside inside' : Bool} {c : Char} (turns : Turns inside c inside') :
    literalAfter inside c = inside' := by
  cases turns with
  | opening => rfl
  | closing => rfl
  | quote => rfl
  | other plain =>
    simp only [List.mem_cons, List.not_mem_nil, or_false, not_or] at plain
    exact literalAfter_of_ne plain.1 plain.2.1 plain.2.2 _

theorem scans_iff {inside inside' : Bool} {text : Text} :
    Scans inside text inside' ↔ insideAfter inside text = inside' := by
  constructor
  · intro scans
    induction scans with
    | nil => rfl
    | cons turns _ ih =>
      rw [← ih, ← turns.literalAfter_eq]
      rfl
  · rintro rfl
    induction text generalizing inside with
    | nil => exact .nil
    | cons c rest ih => exact .cons (turns_literalAfter inside c) ih

instance (inside inside' : Bool) (text : Text) : Decidable (Scans inside text inside') :=
  decidable_of_iff _ scans_iff.symm

/-- The character does not stand in the text while the flag is down. -/
def Without (mark : Char) (inside : Bool) (text : Text) : Prop :=
  ∀ front back, text = front ++ mark :: back → ¬Scans inside front false

theorem without_iff {mark : Char} {inside : Bool} {text : Text} :
    Without mark inside text ↔ Free mark inside text := by
  constructor
  · intro without
    induction text generalizing inside with
    | nil => trivial
    | cons c rest ih =>
      refine ⟨?_, ih fun front back split scans => ?_⟩
      · rintro ⟨rfl, rfl⟩
        exact without [] rest rfl .nil
      · exact without (c :: front) back (congrArg (c :: ·) split)
          (.cons (turns_literalAfter inside c) scans)
  · rintro free front back rfl scans
    obtain ⟨_, free⟩ := Free.append_iff.mp free
    exact free.1 ⟨rfl, scans_iff.mp scans⟩

/-- The pieces of a text between the commas outside. -/
inductive Cut : Bool → Text → List Text → Prop
  | last {inside piece} : Without ',' inside piece → Cut inside piece [piece]
  | more {inside piece rest pieces} : Without ',' inside piece → Scans inside piece false →
      Cut false rest pieces → Cut inside (piece ++ ',' :: rest) (piece :: pieces)

theorem cut_pieces (inside : Bool) (text : Text) : Cut inside text (pieces inside text) := by
  generalize cut : pieces inside text = parts
  induction parts generalizing inside text with
  | nil => exact absurd cut (pieces_ne_nil inside text)
  | cons first others ih =>
    rcases others with _ | ⟨second, others⟩
    · obtain ⟨rfl, free⟩ := free_of_pieces cut
      exact .last (without_iff.mpr free)
    · obtain ⟨rest, rfl, free, outside, later⟩ := split_of_pieces cut
      exact .more (without_iff.mpr free) (scans_iff.mpr outside) (ih false rest later)

theorem Cut.pieces_eq {inside : Bool} {text : Text} {parts : List Text}
    (cut : Cut inside text parts) : pieces inside text = parts := by
  induction cut with
  | last without => exact pieces_of_free (without_iff.mp without)
  | more without outside _ ih =>
    rw [pieces_append_of_free (without_iff.mp without), scans_iff.mp outside, pieces,
      if_pos ⟨rfl, rfl⟩, ih, List.modifyHead_cons, List.append_nil]

theorem Cut.joined {inside : Bool} {text : Text} {parts : List Text} (cut : Cut inside text parts) :
    List.intercalate [','] parts = text := by
  induction cut with
  | last => simp
  | more _ _ later ih =>
    have some := later.pieces_eq ▸ pieces_ne_nil _ _
    simp [List.intercalate_cons_of_ne_nil some, ih]

def outerCommas (inside : Bool) (text : Text) : Nat :=
  (List.range text.length).countP fun place =>
    text[place]? = some ',' ∧ Scans inside (text.take place) false

theorem outerCommas_cons (inside : Bool) (c : Char) (rest : Text) :
    outerCommas inside (c :: rest) =
      outerCommas (literalAfter inside c) rest + if c = ',' ∧ inside = false then 1 else 0 := by
  simp [outerCommas, List.range_succ_eq_map, List.countP_cons, List.countP_map, Function.comp_def,
    scans_iff, insideAfter]

theorem length_pieces (inside : Bool) (text : Text) :
    (pieces inside text).length = outerCommas inside text + 1 := by
  induction text generalizing inside with
  | nil => rfl
  | cons c rest ih =>
    rw [pieces, outerCommas_cons]
    split
    · rename_i comma
      obtain ⟨rfl, rfl⟩ := comma
      rw [List.length_cons, ih]
      rfl
    · rw [List.length_modifyHead, ih, Nat.add_zero]

/-- What stands before the first mark of a color outside, what stands behind that mark, and the
pieces between the commas outside before it. -/
structure Parted (text before : Text) (mark? : Option Text) (parts : List Text) : Prop where
  whole : text = before ++ colorPart mark?
  colorless : Without '!' false before
  outside : mark? ≠ none → Scans false before false
  cut : Cut false before parts

theorem Parted.cutColor_eq {text before : Text} {mark? : Option Text} {parts : List Text}
    (parted : Parted text before mark? parts) : cutColor false text = (before, mark?) := by
  have free := without_iff.mp parted.colorless
  rw [parted.whole]
  cases mark? with
  | none => rw [colorPart, List.append_nil, cutColor_of_free free]
  | some mark =>
    have outside := scans_iff.mp (parted.outside (Option.some_ne_none mark))
    simp [cutColor_append_of_free free, outside, colorPart, cutColor]

theorem exists_parted (text : Text) : ∃ before mark? parts, Parted text before mark? parts := by
  obtain ⟨split, free, outside⟩ := cutColor_spec false text
  exact ⟨_, _, _, split, without_iff.mpr free, fun some => scans_iff.mpr (outside some),
    cut_pieces false _⟩

/-- A line that starts with a plain word and a space has such parts, and it is read as what they
say: the word is the command, the pieces are the arguments, and the color is what stands behind its
mark. -/
theorem ofLine_faithful {word rest : Text} (plain : IsWord word) (said : ¬rest.Blank) :
    (∃ before mark? parts, Parted rest before mark? parts) ∧
    ∀ before mark? parts, Parted rest before mark? parts →
      List.intercalate [','] parts = before ∧ parts.length = outerCommas false before + 1 ∧
      ofLine (word ++ ' ' :: rest) =
        match mark? with
        | none => .ok ⟨word, parts.map Text.trim, none⟩
        | some mark =>
          if Color.Known mark.trim.lowercase then
            .ok ⟨word, parts.map Text.trim, some ⟨mark.trim.lowercase⟩⟩
          else .error (.invalidColor mark.trim.lowercase) := by
  obtain ⟨c, member, solid⟩ : ∃ c ∈ rest, isBlank c = false := by
    simpa [Text.Blank] using said
  refine ⟨exists_parted rest, fun before mark? parts parted => ?_⟩
  have read := ofLine_of_word plain (Text.trim_ne_nil member solid)
  simp only [parted.cutColor_eq, parted.cut.pieces_eq] at read
  refine ⟨parted.cut.joined, ?_, ?_⟩
  · rw [← parted.cut.pieces_eq, length_pieces]
  · rw [read]
    cases mark? with
    | none => rfl
    | some mark =>
      simp only [Option.map_some, readColor, Color.ofText_eq]
      split <;> rfl

theorem ofLine_faithful_unbalanced :
    ofLine "text [1,\"a], \"b!]c!#00FF0".toList = .error (.invalidColor "#00ff0".toList) ∧
    ofLine "text [1,\"a], \"b!]c".toList =
      .ok ⟨"text".toList, ["[1,\"a]".toList, "\"b!]c".toList], none⟩ := by
  have parted (mark? : Option Text) : Parted ("[1,\"a], \"b!]c".toList ++ colorPart mark?)
      "[1,\"a], \"b!]c".toList mark? ["[1,\"a]".toList, " \"b!]c".toList] := by
    refine ⟨rfl, without_iff.mpr ?_, fun _ => by decide, cut_pieces false _⟩
    simp [Free, literalAfter]
  have plain : IsWord "text".toList := isWord_name .text
  have said (mark? : Option Text) :
      ¬Text.Blank ("[1,\"a], \"b!]c".toList ++ colorPart mark?) := by
    intro blank
    cases blank '[' List.mem_cons_self
  have lower : Text.lowercase (Text.trim "#00FF0".toList) = "#00ff0".toList := by decide +kernel
  have unknown : ¬Color.Known "#00ff0".toList := by decide +kernel
  refine ⟨?_, ((ofLine_faithful plain (said none)).2 _ _ _ (parted _)).2.2⟩
  have read := ((ofLine_faithful plain (said (some "#00FF0".toList))).2 _ _ _ (parted _)).2.2
  simp only [lower, if_neg unknown] at read
  exact read

end DiagramScript.Statement
