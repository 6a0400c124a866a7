import DiagramScript.Proofs.Text.Trim
import DiagramScript.Script.Statement

/-! Texts without a comment. Whether a percent sign starts a comment depends on what stands before
it only through one mark, so a text can be looked at piece by piece. The mark is the parity of the
backslashes directly before a place. Main statement: `stripComment_cuts`. -/
namespace DiagramScript

/-- The mark for a backslash that escapes, after a text. -/
def escapedAfter (escaped : Bool) (text : Text) : Bool :=
  text.foldl (fun escaped c => c == '\\' && !escaped) escaped

def Uncommented (escaped : Bool) (text : Text) : Prop := beforeComment escaped text = text

theorem uncommented_cons_iff {escaped : Bool} {c : Char} {rest : Text} :
    Uncommented escaped (c :: rest) ↔
      ¬(c = '%' ∧ escaped = false) ∧ Uncommented (c == '\\' && !escaped) rest := by
  simp only [Uncommented, beforeComment]
  constructor
  · intro same
    split at same
    · cases same
    · rename_i plain
      exact ⟨plain, (List.cons.inj same).2⟩
  · rintro ⟨plain, same⟩
    rw [if_neg plain, same]

theorem uncommented_append_iff {escaped : Bool} {left right : Text} :
    Uncommented escaped (left ++ right) ↔
      Uncommented escaped left ∧ Uncommented (escapedAfter escaped left) right := by
  induction left generalizing escaped with
  | nil => simp [Uncommented, beforeComment, escapedAfter]
  | cons c left ih =>
    rw [List.cons_append, uncommented_cons_iff, uncommented_cons_iff, ih, and_assoc]
    rfl

theorem uncommented_cons_of_ne {escaped : Bool} {c : Char} {rest : Text} (percent : c ≠ '%')
    (backslash : c ≠ '\\') (plain : Uncommented false rest) : Uncommented escaped (c :: rest) := by
  refine uncommented_cons_iff.mpr ⟨fun sign => percent sign.1, ?_⟩
  rwa [beq_eq_false_iff_ne.mpr backslash, Bool.false_and]

theorem beforeComment_append_of_uncommented {escaped : Bool} {left : Text}
    (plain : Uncommented escaped left) (right : Text) :
    beforeComment escaped (left ++ right) =
      left ++ beforeComment (escapedAfter escaped left) right := by
  induction left generalizing escaped with
  | nil => rfl
  | cons c left ih =>
    obtain ⟨no_sign, later⟩ := uncommented_cons_iff.mp plain
    rw [List.cons_append, beforeComment, if_neg no_sign, ih later]
    rfl

theorem beforeComment_append_of_commented {escaped : Bool} {left : Text}
    (started : ¬Uncommented escaped left) (right : Text) :
    beforeComment escaped (left ++ right) = beforeComment escaped left := by
  induction left generalizing escaped with
  | nil => exact absurd rfl started
  | cons c left ih =>
    rw [uncommented_cons_iff] at started
    rw [List.cons_append, beforeComment, beforeComment]
    split
    · rfl
    · rename_i no_sign
      rw [ih fun later => started ⟨no_sign, later⟩]

theorem uncommented_beforeComment (escaped : Bool) (text : Text) :
    Uncommented escaped (beforeComment escaped text) := by
  induction text generalizing escaped with
  | nil => rfl
  | cons c rest ih =>
    rw [beforeComment]
    split
    · rfl
    · rename_i plain
      exact uncommented_cons_iff.mpr ⟨plain, ih _⟩

theorem uncommented_of_not_mem {escaped : Bool} {text : Text} (plain : '%' ∉ text) :
    Uncommented escaped text := by
  induction text generalizing escaped with
  | nil => rfl
  | cons c rest ih =>
    obtain ⟨other, rest_plain⟩ := not_or.mp (mt List.mem_cons.mpr plain)
    exact uncommented_cons_iff.mpr ⟨fun sign => other sign.1.symm, ih rest_plain⟩

theorem mem_of_mem_beforeComment {escaped : Bool} {text : Text} {c : Char}
    (member : c ∈ beforeComment escaped text) : c ∈ text := by
  induction text generalizing escaped with
  | nil => cases member
  | cons c' rest ih =>
    rw [beforeComment] at member
    split at member
    · cases member
    · rcases List.mem_cons.mp member with rfl | later
      · exact List.mem_cons_self
      · exact List.mem_cons_of_mem _ (ih later)

theorem uncommented_of_blank {escaped : Bool} {text : Text} (blank : text.Blank) :
    Uncommented escaped text := by
  refine uncommented_of_not_mem fun sign => ?_
  cases blank _ sign

theorem escapedAfter_of_blank {text : Text} (blank : text.Blank) :
    escapedAfter false text = false := by
  induction text with
  | nil => rfl
  | cons c rest ih =>
    obtain ⟨white, rest_white⟩ := List.forall_mem_cons.mp blank
    have plain : (c == '\\') = false := by
      refine beq_eq_false_iff_ne.mpr ?_
      rintro rfl
      cases white
    have step : escapedAfter false (c :: rest) = escapedAfter (c == '\\' && !false) rest := rfl
    rw [step, plain]
    exact ih rest_white

/-- The last backslash of a text escapes what follows when the run that it ends is odd. -/
theorem escapedAfter_eq (text : Text) :
    escapedAfter false text = decide ((text.rtakeWhile (· == '\\')).length % 2 = 1) := by
  induction text using List.reverseRecOn with
  | nil => rfl
  | append_singleton init c ih =>
    have step : escapedAfter false (init ++ [c]) = (c == '\\' && !escapedAfter false init) := by
      simp [escapedAfter]
    rw [step, ih]
    by_cases backslash : c = '\\'
    · subst backslash
      have longer : ((init ++ ['\\']).rtakeWhile (· == '\\')).length =
          (init.rtakeWhile (· == '\\')).length + 1 := by
        rw [List.rtakeWhile_concat_pos (· == '\\') _ _ rfl, List.length_append,
          List.length_singleton]
      rw [longer, beq_self_eq_true, Bool.true_and, ← decide_not, decide_eq_decide]
      omega
    · rw [List.rtakeWhile_concat_neg _ _ _ (by simpa using backslash)]
      simp [backslash]

theorem Uncommented.trim {text : Text} (plain : Uncommented false text) :
    Uncommented false text.trim := by
  obtain ⟨lead, tail, before, _, split⟩ := text.exists_trim
  rw [split, uncommented_append_iff, escapedAfter_of_blank before,
    uncommented_append_iff] at plain
  exact plain.2.1

/-- The run of backslashes at the end of a text is even, so it escapes nothing that follows. -/
def EndsUnescaped (text : Text) : Prop :=
  (text.rtakeWhile (· == '\\')).length % 2 = 0

instance (text : Text) : Decidable (EndsUnescaped text) :=
  inferInstanceAs (Decidable (_ % 2 = 0))

/-- No percent sign of a text stands directly behind an even run of backslashes. -/
def NoComment (text : Text) : Prop :=
  ∀ front back, text = front ++ '%' :: back → ¬EndsUnescaped front

theorem endsUnescaped_iff {text : Text} : EndsUnescaped text ↔ escapedAfter false text = false := by
  rw [escapedAfter_eq, decide_eq_false_iff_not, Nat.mod_two_not_eq_one]
  rfl

theorem uncommented_iff {escaped : Bool} {text : Text} : Uncommented escaped text ↔
    ∀ front back, text = front ++ '%' :: back → escapedAfter escaped front = true := by
  constructor
  · rintro plain front back rfl
    have sign := (uncommented_cons_iff.mp (uncommented_append_iff.mp plain).2).1
    simpa using sign
  · intro marked
    induction text generalizing escaped with
    | nil => rfl
    | cons c rest ih =>
      refine uncommented_cons_iff.mpr ⟨?_, ih fun front back split => ?_⟩
      · rintro ⟨rfl, rfl⟩
        exact Bool.false_ne_true (marked [] rest rfl)
      · exact marked (c :: front) back (congrArg (c :: ·) split)

theorem uncommented_iff_noComment {text : Text} : Uncommented false text ↔ NoComment text := by
  simp only [uncommented_iff, NoComment, endsUnescaped_iff, Bool.not_eq_false]

instance (text : Text) : Decidable (NoComment text) :=
  decidable_of_iff (beforeComment false text = text) uncommented_iff_noComment

theorem exists_comment {escaped : Bool} {text : Text} (started : ¬Uncommented escaped text) :
    ∃ comment, text = beforeComment escaped text ++ '%' :: comment ∧
      escapedAfter escaped (beforeComment escaped text) = false := by
  induction text generalizing escaped with
  | nil => exact absurd rfl started
  | cons c rest ih =>
    rw [uncommented_cons_iff] at started
    rw [beforeComment]
    split
    · rename_i sign
      obtain ⟨rfl, rfl⟩ := sign
      exact ⟨rest, rfl, rfl⟩
    · rename_i no_sign
      obtain ⟨comment, split, even⟩ := ih fun later => started ⟨no_sign, later⟩
      exact ⟨comment, congrArg (c :: ·) split, even⟩

/-- What is left of a line is the longest part at its start in which no percent sign stands behind
an even run of backslashes. It is the whole line if there is no such percent sign, and otherwise
that sign comes next. So nothing is left to strip, and a comment can be put behind every text that
has none and escapes nothing at its end. -/
theorem stripComment_cuts (line : Text) :
    (stripComment line <+: line ∧ NoComment (stripComment line) ∧
      ∀ front, front <+: line → NoComment front → front <+: stripComment line) ∧
    (NoComment line → stripComment line = line) ∧
    (¬NoComment line →
      ∃ comment, line = stripComment line ++ '%' :: comment ∧ EndsUnescaped (stripComment line)) ∧
    stripComment (stripComment line) = stripComment line ∧
    ∀ text comment, stripComment text = text → EndsUnescaped text →
      stripComment (text ++ '%' :: comment) = text := by
  have plain : Uncommented false (stripComment line) := uncommented_beforeComment false line
  have whole : NoComment line → stripComment line = line := uncommented_iff_noComment.mpr
  have cut : ¬NoComment line →
      ∃ comment, line = stripComment line ++ '%' :: comment ∧
        EndsUnescaped (stripComment line) := by
    intro started
    obtain ⟨comment, split, even⟩ := exists_comment (mt uncommented_iff_noComment.mp started)
    exact ⟨comment, split, endsUnescaped_iff.mpr even⟩
  refine ⟨⟨?_, uncommented_iff_noComment.mp plain, ?_⟩, whole, cut, plain, ?_⟩
  · by_cases none : NoComment line
    · exact ⟨[], by rw [List.append_nil, whole none]⟩
    · obtain ⟨comment, split, _⟩ := cut none
      exact ⟨_, split.symm⟩
  · rintro front ⟨rest, rfl⟩ none
    have kept := beforeComment_append_of_uncommented (uncommented_iff_noComment.mpr none) rest
    exact ⟨_, kept.symm⟩
  · intro text comment same even
    rw [stripComment, beforeComment_append_of_uncommented same, endsUnescaped_iff.mp even,
      beforeComment, if_pos ⟨rfl, rfl⟩, List.append_nil]

theorem stripComment_cuts_behind_pair :
    (¬NoComment "x\\% y\\\\% z".toList ∧ ∃ comment,
      "x\\% y\\\\% z".toList = stripComment "x\\% y\\\\% z".toList ++ '%' :: comment ∧
      EndsUnescaped (stripComment "x\\% y\\\\% z".toList)) ∧
    "x\\%".toList <+: stripComment "x\\% y\\\\% z".toList ∧
    stripComment "x\\% y".toList = "x\\% y".toList ∧
    stripComment ("x\\% y\\\\".toList ++ '%' :: " z".toList) = "x\\% y\\\\".toList := by
  obtain ⟨⟨_, _, longest⟩, _, cut, _, behind⟩ := stripComment_cuts "x\\% y\\\\% z".toList
  have started : ¬NoComment "x\\% y\\\\% z".toList := by decide
  exact ⟨⟨started, cut started⟩, longest _ (by decide) (by decide),
    (stripComment_cuts "x\\% y".toList).2.1 (by decide),
    behind "x\\% y\\\\".toList " z".toList (by decide) (by decide)⟩

end DiagramScript
