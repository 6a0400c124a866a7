import DiagramScript.Proofs.Text.Lowercase
import DiagramScript.Proofs.Text.Search
import DiagramScript.Script.Color
import Mathlib.Data.String.Basic

/-! Texts that stand for colors. The search through the names finds all of them, so exactly the
texts with the lower case of a color are accepted (`Color.ofText_eq`, `Color.validate_eq`). They are
spelled with letters, digits and the number sign, so they have no character that means something in
a line. -/
namespace DiagramScript.Color

/-- A color as it is kept: a name, or a number sign and six hexadecimal digits, in lower case. -/
def Known (text : Text) : Prop :=
  String.ofList text ∈ names ∨
    ∃ digits : Text, text = '#' :: digits ∧ digits.length = 6 ∧
      ∀ c ∈ digits, ('0' ≤ c ∧ c ≤ '9') ∨ ('a' ≤ c ∧ c ≤ 'f')

theorem ofList_lt_ofList {left right : Text} (less : left < right) :
    String.ofList left < String.ofList right := by
  rw [String.lt_iff_toList_lt, String.toList_ofList, String.toList_ofList]
  exact less

theorem names_sorted : names.SortedLT := by
  refine List.IsChain.sortedLT ?_
  unfold names
  -- Two literals are compared as lists of characters, since strings are slow to take apart.
  repeat' first
    | exact List.IsChain.singleton _
    | refine List.IsChain.cons_cons (ofList_lt_ofList (by decide)) ?_

theorem isHexCode_iff {text : Text} :
    isHexCode text = true ↔ ∃ digits : Text, text = '#' :: digits ∧ digits.length = 6 ∧
      ∀ c ∈ digits, ('0' ≤ c ∧ c ≤ '9') ∨ ('a' ≤ c ∧ c ≤ 'f') := by
  constructor
  · intro code
    unfold isHexCode at code
    split at code
    · rename_i digits
      simp only [Bool.and_eq_true, beq_iff_eq, List.all_eq_true, isHexDigit, Char.isDigit,
        Bool.or_eq_true, decide_eq_true_eq] at code
      exact ⟨digits, rfl, code.1, code.2⟩
    · cases code
  · rintro ⟨digits, rfl, size, hex⟩
    simp only [isHexCode, Bool.and_eq_true, beq_iff_eq, List.all_eq_true, isHexDigit, Char.isDigit,
        Bool.or_eq_true, decide_eq_true_eq]
    exact ⟨size, hex⟩

theorem isColor_iff {text : Text} : isColor text = true ↔ Known text := by
  rw [isColor, Bool.or_eq_true, search?_isSome_iff names_sorted, isHexCode_iff, Known]

instance (text : Text) : Decidable (Known text) :=
  decidable_of_iff _ isColor_iff

theorem black_known : Known black.text :=
  .inl (by simp [names, black])

theorem validate_eq (text : Text) :
    validate (some text) =
      if Known text.lowercase then .ok () else .error (.invalidColor text.lowercase) := by
  simp only [validate, isColor_iff]

theorem ofText_eq (text : Text) :
    ofText text =
      if Known text.lowercase then .ok ⟨text.lowercase⟩
      else .error (.invalidColor text.lowercase) := by
  simp only [ofText, validate_eq, Text.lowercase_lowercase]
  split <;> rfl

theorem ofText_eq_ok_iff {text : Text} {color : Color} :
    ofText text = .ok color ↔ Known text.lowercase ∧ color = ⟨text.lowercase⟩ := by
  rw [ofText_eq]
  split
  · rename_i known
    simp [known, eq_comm]
  · rename_i unknown
    simp [unknown]

def spellsColor (c : Char) : Bool :=
  c.isAlphanum || c == '#'

theorem spells_ofList {chars : Text} (spelled : chars.all spellsColor = true) :
    ∀ c ∈ (String.ofList chars).toList, spellsColor c = true := by
  rw [String.toList_ofList]
  exact List.all_eq_true.mp spelled

theorem spells_names : ∀ name ∈ names, ∀ c ∈ name.toList, spellsColor c = true := by
  unfold names
  repeat' first
    | exact List.forall_mem_nil _
    | refine List.forall_mem_cons.mpr ⟨spells_ofList (by decide), ?_⟩

theorem spellsColor_of_known {text : Text} (known : Known text) :
    ∀ c ∈ text, spellsColor c = true := by
  rcases known with named | ⟨digits, rfl, _, hex⟩
  · have spelled := spells_names _ named
    rwa [String.toList_ofList] at spelled
  · refine List.forall_mem_cons.mpr ⟨rfl, fun c member => ?_⟩
    unfold spellsColor Char.isAlphanum Char.isAlpha Char.isLower Char.isDigit
    simp only [Bool.or_eq_true, Bool.and_eq_true, decide_eq_true_eq]
    rcases hex c member with digit | ⟨low, high⟩
    · exact .inl (.inr digit)
    · exact .inl (.inl (.inr ⟨low, UInt32.le_trans high (by decide)⟩))

theorem plain_of_ofText {text : Text} {color : Color} (accepted : ofText text = .ok color) :
    ∀ c ∈ text, isBlank c = false ∧ c ≠ '%' := by
  obtain ⟨known, _⟩ := ofText_eq_ok_iff.mp accepted
  intro c member
  constructor
  · rw [← Bool.not_eq_true]
    intro blank
    have spelled := spellsColor_of_known known c
      (Text.mem_lowercase member (isLower_of_isBlank blank))
    have solid : (!spellsColor c) = true :=
      CharRanges.forall_of_all (p := fun c => !spellsColor c) (by decide +kernel) blank
    rw [spelled] at solid
    cases solid
  · rintro rfl
    cases spellsColor_of_known known '%' (Text.mem_lowercase member (by decide))

end DiagramScript.Color
