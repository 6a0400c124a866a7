import DiagramScript.Proofs.Script.Brackets

/-! The components of a coordinate in brackets. They are cut at the commas outside all brackets, and
this is counted with a depth that stops at zero, so a closing bracket without its opening one
changes nothing for what comes behind it. Nothing of the text is lost, whatever brackets it has.
Main statement: `Argument.components_partition`. -/
namespace DiagramScript

namespace Argument

def openings (text : Text) : Nat := text.countP (· ∈ ['(', '['])

def closings (text : Text) : Nat := text.countP (· ∈ [')', ']'])

/-- No comma of a text stands where the depth is zero, if it is counted from a depth on. -/
def Whole (depth : Nat) (text : Text) : Prop :=
  ∀ front back, text = front ++ ',' :: back → depthThrough depth front ≠ 0

/-- How many commas of a text stand where the depth is zero, if it is counted from a depth on. -/
def outerCommas (depth : Nat) (text : Text) : Nat :=
  (List.range text.length).countP fun place =>
    text[place]? == some ',' && depthThrough depth (text.take place) == 0

theorem openings_append (left right : Text) :
    openings (left ++ right) = openings left + openings right := List.countP_append

theorem closings_append (left right : Text) :
    closings (left ++ right) = closings left + closings right := List.countP_append

theorem depthAfter_cases (c : Char) :
    (openings [c] = 1 ∧ closings [c] = 0 ∧ ∀ depth, depthAfter depth c = depth + 1) ∨
      (openings [c] = 0 ∧ closings [c] = 1 ∧ ∀ depth, depthAfter depth c = depth - 1) ∨
      (openings [c] = 0 ∧ closings [c] = 0 ∧ ∀ depth, depthAfter depth c = depth) := by
  by_cases level : c ∈ brackets
  · simp only [brackets, List.mem_cons, List.not_mem_nil, or_false] at level
    rcases level with rfl | rfl | rfl | rfl
    · exact .inl ⟨rfl, rfl, fun _ => rfl⟩
    · exact .inr (.inl ⟨rfl, rfl, fun _ => rfl⟩)
    · exact .inl ⟨rfl, rfl, fun _ => rfl⟩
    · exact .inr (.inl ⟨rfl, rfl, fun _ => rfl⟩)
  · refine .inr (.inr ⟨?_, ?_, depthAfter_of_not_mem level⟩)
    all_goals
      simp only [brackets, List.mem_cons, List.not_mem_nil, or_false, not_or] at level
      simp [openings, closings, level]

/-- The depth is never less than what is open. -/
theorem openings_le (depth : Nat) (text : Text) :
    depth + openings text ≤ closings text + depthThrough depth text := by
  induction text generalizing depth with
  | nil => exact Nat.le_of_eq (Nat.add_comm _ _)
  | cons c rest ih =>
    have later := ih (depthAfter depth c)
    change depth + openings ([c] ++ rest) ≤ closings ([c] ++ rest) +
      depthThrough (depthAfter depth c) rest
    rw [openings_append, closings_append]
    obtain ⟨opens, closes, after⟩ | ⟨opens, closes, after⟩ | ⟨opens, closes, after⟩ :=
      depthAfter_cases c
    all_goals
      rw [after] at later ⊢
      omega

/-- The depth is what some end of the text opens and does not close. -/
theorem exists_openings (text : Text) :
    ∃ back, back <:+ text ∧ openings back = closings back + depthThrough 0 text := by
  induction text using List.reverseRecOn with
  | nil => exact ⟨[], List.suffix_rfl, rfl⟩
  | append_singleton front c ih =>
    obtain ⟨back, ⟨lead, rfl⟩, depth⟩ := ih
    have longer : back ++ [c] <:+ (lead ++ back) ++ [c] := ⟨lead, (List.append_assoc _ _ _).symm⟩
    have opened := openings_append back [c]
    have closed := closings_append back [c]
    rw [depthThrough_append]
    change ∃ back', _ ∧ _ = _ + depthAfter (depthThrough 0 (lead ++ back)) c
    obtain ⟨opens, closes, after⟩ | ⟨opens, closes, after⟩ | ⟨opens, closes, after⟩ :=
      depthAfter_cases c
    · exact ⟨back ++ [c], longer, by rw [after]; omega⟩
    · -- A closing bracket where nothing is open starts the count anew.
      by_cases none : depthThrough 0 (lead ++ back) = 0
      · exact ⟨[], List.nil_suffix, by rw [after, none]; rfl⟩
      · exact ⟨back ++ [c], longer, by rw [after]; omega⟩
    · exact ⟨back ++ [c], longer, by rw [after]; omega⟩

theorem depthThrough_eq_zero_iff {text : Text} :
    depthThrough 0 text = 0 ↔ ∀ back, back <:+ text → openings back ≤ closings back := by
  constructor
  · rintro outside back ⟨front, rfl⟩
    rw [depthThrough_append] at outside
    have open_brackets := openings_le (depthThrough 0 front) back
    omega
  · intro closes
    obtain ⟨back, ends, depth⟩ := exists_openings text
    have closed := closes back ends
    omega

theorem whole_cons_iff {depth : Nat} {c : Char} {rest : Text} :
    Whole depth (c :: rest) ↔ ¬(c = ',' ∧ depth = 0) ∧ Whole (depthAfter depth c) rest := by
  constructor
  · intro whole
    refine ⟨?_, fun front back split => whole (c :: front) back (congrArg (c :: ·) split)⟩
    rintro ⟨rfl, rfl⟩
    exact whole [] rest rfl rfl
  · rintro ⟨here, later⟩ front back split
    rcases front with _ | ⟨c', front⟩
    · cases split
      exact fun none => here ⟨rfl, none⟩
    · cases split
      exact later front back rfl

theorem componentsFrom_cons {depth : Nat} {c : Char} (inside : ¬(c = ',' ∧ depth = 0))
    (rest : Text) : componentsFrom depth (c :: rest) =
      (componentsFrom (depthAfter depth c) rest).modifyHead (c :: ·) := by
  obtain ⟨first, others, parts⟩ :=
    List.exists_cons_of_ne_nil (componentsFrom_ne_nil (depthAfter depth c) rest)
  rw [componentsFrom, if_neg inside, parts, List.modifyHead_cons]

theorem exists_whole_components (depth : Nat) (text : Text) :
    ∃ first others, componentsFrom depth text = first :: others ∧ Whole depth first ∧
      ∀ part ∈ others, Whole 0 part := by
  induction text generalizing depth with
  | nil => exact ⟨[], [], rfl, by simp [Whole], nofun⟩
  | cons c rest ih =>
    by_cases comma : c = ',' ∧ depth = 0
    · obtain ⟨first, others, parts, whole, wholes⟩ := ih 0
      refine ⟨[], first :: others, ?_, by simp [Whole], List.forall_mem_cons.mpr ⟨whole, wholes⟩⟩
      rw [componentsFrom, if_pos comma, parts]
    · obtain ⟨first, others, parts, whole, wholes⟩ := ih (depthAfter depth c)
      refine ⟨c :: first, others, ?_, whole_cons_iff.mpr ⟨comma, whole⟩, wholes⟩
      rw [componentsFrom_cons comma, parts, List.modifyHead_cons]

theorem outerCommas_cons (depth : Nat) (c : Char) (rest : Text) :
    outerCommas depth (c :: rest) =
      outerCommas (depthAfter depth c) rest + if c = ',' ∧ depth = 0 then 1 else 0 := by
  simp [outerCommas, List.range_succ_eq_map, List.countP_cons, List.countP_map, Function.comp_def,
    depthThrough]

theorem length_componentsFrom (depth : Nat) (text : Text) :
    (componentsFrom depth text).length = outerCommas depth text + 1 := by
  induction text generalizing depth with
  | nil => rfl
  | cons c rest ih =>
    rw [outerCommas_cons]
    split
    · rename_i comma
      obtain ⟨rfl, rfl⟩ := comma
      rw [componentsFrom, if_pos ⟨rfl, rfl⟩, List.length_cons, ih]
      rfl
    · rename_i inside
      rw [componentsFrom_cons inside, List.length_modifyHead, ih, Nat.add_zero]

theorem pair_eq_componentCount_iff {inner inner' : Text} {found : Nat} :
    pair inner = .error (.componentCount inner' found) ↔
      (components inner).length ≠ 2 ∧ inner' = inner ∧ found = (components inner).length := by
  unfold pair
  split
  · rename_i x y parts
    constructor
    · intro failed
      simp only [bind_eq_error_iff] at failed
      obtain first | ⟨_, _, second | ⟨_, _, impossible⟩⟩ := failed
      · obtain ⟨_, same, _⟩ := value_eq_error first
        cases same
      · obtain ⟨_, same, _⟩ := value_eq_error second
        cases same
      · cases impossible
    · rintro ⟨other, _⟩
      exact absurd (congrArg List.length parts) other
  · rename_i other
    have count : (components inner).length ≠ 2 := by
      intro two
      obtain ⟨x, y, parts⟩ := List.length_eq_two.mp two
      exact other x y parts
    rw [Except.error.injEq, ScriptError.componentCount.injEq]
    constructor
    · rintro ⟨rfl, rfl⟩
      exact ⟨count, rfl, rfl⟩
    · rintro ⟨_, rfl, rfl⟩
      exact ⟨rfl, rfl⟩

/-- The components of a text are the text again with commas between them. None of them has a comma
outside its own brackets, there is one more of them than the text has commas outside all brackets,
and this is the number in the error that is raised when they are not two. Outside means that no end
of what stands before opens more brackets than it closes. -/
theorem components_partition (inner : Text) :
    List.intercalate [','] (components inner) = inner ∧
    (∀ part ∈ components inner, Whole 0 part) ∧
    (components inner).length = outerCommas 0 inner + 1 ∧
    (∀ inner' found, pair inner = .error (.componentCount inner' found) ↔
      (components inner).length ≠ 2 ∧ inner' = inner ∧ found = outerCommas 0 inner + 1) ∧
    ∀ text, depthThrough 0 text = 0 ↔ ∀ back, back <:+ text → openings back ≤ closings back := by
  have count : (components inner).length = outerCommas 0 inner + 1 := length_componentsFrom 0 inner
  obtain ⟨first, others, parts, whole, wholes⟩ := exists_whole_components 0 inner
  refine ⟨intercalate_componentsFrom 0 inner, ?_, count, fun inner' found => ?_,
    fun text => depthThrough_eq_zero_iff⟩
  · rw [components, parts]
    exact List.forall_mem_cons.mpr ⟨whole, wholes⟩
  · rw [← count]
    exact pair_eq_componentCount_iff

theorem components_partition_unbalanced :
    "(é,]".toList ∈ components "),(é,],1".toList ∧ Whole 0 "(é,]".toList ∧
    pair "),(é,],1".toList = .error (.componentCount "),(é,],1".toList 3) ∧
    depthThrough 0 ")".toList = 0 := by
  obtain ⟨_, wholes, _, reports, outside⟩ := components_partition "),(é,],1".toList
  have member : "(é,]".toList ∈ components "),(é,],1".toList := by decide
  refine ⟨member, wholes _ member, (reports _ _).mpr ⟨by decide, rfl, rfl⟩, (outside _).mpr ?_⟩
  intro back ends
  rcases List.suffix_cons_iff.mp ends with rfl | rest
  · decide
  · rw [List.suffix_nil.mp rest]
    decide

end Argument
end DiagramScript
