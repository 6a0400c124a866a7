import DiagramScript.Text.Blank
import DiagramScript.Text.Lowercase

/-! Characters that lower case leaves alone. They are found again in the lower case of every text
that holds them, and white space is among them. Lower case consists of such characters, so it is its
own lower case: `Text.lowercase_lowercase`. -/
namespace DiagramScript

/-- What is checked for the code points of some ranges holds of all their characters. -/
theorem CharRanges.forall_of_all {ranges : CharRanges} {p : Char → Bool}
    (checked : ranges.all (fun range =>
      (List.range' range.1 (range.2 + 1 - range.1)).all fun code => p (Char.ofNat code)) = true)
    {c : Char} (inside : ranges.contains c = true) : p c = true := by
  obtain ⟨range, member, bounds⟩ := List.any_eq_true.mp inside
  simp only [Bool.and_eq_true, decide_eq_true_eq] at bounds
  have code : c.toNat ∈ List.range' range.1 (range.2 + 1 - range.1) :=
    List.mem_range'_1.mpr ⟨bounds.1, by omega⟩
  have holds := List.all_eq_true.mp (List.all_eq_true.mp checked range member) _ code
  rwa [Char.ofNat_toNat] at holds

/-- Lower case leaves the character alone, wherever it stands. -/
def IsLower (c : Char) : Prop :=
  lowercaseChar c = [c] ∧ c ≠ '\u03a3'

instance (c : Char) : Decidable (IsLower c) :=
  inferInstanceAs (Decidable (_ ∧ _))

theorem isLower_of_isBlank {c : Char} (blank : isBlank c = true) : IsLower c := by
  have checked := CharRanges.forall_of_all (p := fun c => decide (IsLower c)) (by decide +kernel)
    blank
  exact of_decide_eq_true checked

namespace CaseRun

/-- No small letter of the run is a capital letter of the other one: they are far apart, or they
are odd where those are even. -/
def avoids (run other : CaseRun) : Bool :=
  Nat.blt (run.lower run.last) other.first || Nat.blt other.last (run.lower run.first) ||
    (other.step == 2 && (run.step == 2 || run.first == run.last) &&
      (run.lower run.first + other.first) % 2 == 1)

theorem lower_eq {run : CaseRun} (natural : 0 ≤ run.first + run.shift) {code : Nat}
    (first : run.first ≤ code) : run.lower code = run.lower run.first + (code - run.first) := by
  rw [lower, lower]
  omega

theorem not_holds_of_avoids {run other : CaseRun} (apart : run.avoids other = true)
    (natural : 0 ≤ run.first + run.shift) {code : Nat} (holds : run.holds code = true) :
    other.holds (run.lower code) = false := by
  rw [← Bool.not_eq_true]
  intro holds'
  simp only [avoids, CaseRun.holds, Bool.or_eq_true, Bool.and_eq_true, Nat.blt_eq, beq_iff_eq,
    decide_eq_true_eq] at apart holds holds'
  obtain ⟨⟨first, last⟩, step⟩ := holds
  obtain ⟨⟨first', last'⟩, step'⟩ := holds'
  rw [lower_eq natural first] at first' last' step'
  rcases apart with (before | behind) | ⟨⟨two, even⟩, odd⟩
  · rw [lower_eq natural (by omega)] at before
    omega
  · omega
  · rw [two] at step'
    rcases even with two | single
    · rw [two] at step
      omega
    · omega

end CaseRun

def capitals : List CaseRun :=
  ⟨0x41, 0x5a, 1, 32⟩ :: ⟨0x130, 0x130, 1, -199⟩ :: caseRuns

theorem isLower_of_not_capital {c : Char}
    (small : ∀ run ∈ capitals, run.holds c.toNat = false) : IsLower c := by
  obtain ⟨ascii, dotted, others⟩ := by simpa only [capitals, List.forall_mem_cons] using small
  constructor
  · rw [lowercaseChar]
    split
    · have same : c.toLower = c := by
        unfold Char.toLower
        refine dif_neg ?_
        rintro ⟨first, last⟩
        have holds : CaseRun.holds ⟨0x41, 0x5a, 1, 32⟩ c.toNat = true := by
          simp only [CaseRun.holds, Bool.and_eq_true, decide_eq_true_eq, Nat.mod_one]
          exact ⟨⟨UInt32.le_iff_toNat_le.mp first, UInt32.le_iff_toNat_le.mp last⟩, rfl⟩
        rw [ascii] at holds
        cases holds
      rw [same]
    · have undotted : c ≠ '\u0130' := by
        rintro rfl
        exact absurd dotted (by decide)
      have other : caseRuns.find? (·.holds c.toNat) = none := by
        rw [List.find?_eq_none]
        intro run member
        rw [others run member]
        exact Bool.false_ne_true
      rw [if_neg undotted, other]
  · rintro rfl
    have member : caseRuns.any (·.holds 0x3a3) = true := by decide +kernel
    obtain ⟨run, member, holds⟩ := List.any_eq_true.mp member
    have small := others run member
    exact Bool.false_ne_true (small.symm.trans holds)

theorem isLower_of_run {run : CaseRun} (member : run ∈ caseRuns) {code : Nat}
    (holds : run.holds code = true) : IsLower (Char.ofNat (run.lower code)) := by
  have apart : caseRuns.all (fun run => capitals.all run.avoids) = true := by decide +kernel
  have natural : ∀ run ∈ caseRuns, 0 ≤ run.first + run.shift := by decide +kernel
  by_cases valid : (run.lower code).isValidChar
  · have code_eq : (Char.ofNat (run.lower code)).toNat = run.lower code := by
      rw [Char.ofNat, dif_pos valid]
      rfl
    refine isLower_of_not_capital fun other member' => ?_
    have avoids := List.all_eq_true.mp (List.all_eq_true.mp apart run member) other member'
    rw [code_eq]
    exact CaseRun.not_holds_of_avoids avoids (natural run member) holds
  · -- Other code points stand for the null character.
    rw [Char.ofNat, dif_neg valid]
    decide

theorem isLower_of_mem_lowercaseChar {c d : Char} (other : c ≠ '\u03a3')
    (member : d ∈ lowercaseChar c) : IsLower d := by
  rw [lowercaseChar] at member
  split at member
  · rename_i ascii
    have checked : ∀ code < 0x80, IsLower (Char.ofNat code).toLower := by decide +kernel
    rw [List.mem_singleton.mp member, ← c.ofNat_toNat]
    exact checked c.toNat ascii
  · split at member
    · have checked : ['i', '\u0307'].all (fun d => decide (IsLower d)) = true := by decide +kernel
      exact of_decide_eq_true (List.all_eq_true.mp checked d member)
    · split at member
      · rename_i run found
        rw [List.mem_singleton.mp member]
        have holds := List.find?_some found
        exact isLower_of_run (List.mem_of_find?_eq_some found) holds
      · rename_i ascii undotted _ unknown
        cases List.mem_singleton.mp member
        refine ⟨?_, other⟩
        rw [lowercaseChar, if_neg ascii, if_neg undotted, unknown]

namespace Text

theorem mem_lowercaseAfter {before text : Text} {c : Char} (member : c ∈ text)
    (fixed : IsLower c) : c ∈ lowercaseAfter before text := by
  induction text generalizing before with
  | nil => cases member
  | cons c' rest ih =>
    rw [lowercaseAfter]
    rcases List.mem_cons.mp member with rfl | later
    · rw [if_neg fixed.2, fixed.1]
      exact List.mem_append_left _ List.mem_cons_self
    · exact List.mem_append_right _ (ih later)

theorem mem_lowercase {text : Text} {c : Char} (member : c ∈ text) (fixed : IsLower c) :
    c ∈ text.lowercase :=
  mem_lowercaseAfter member fixed

theorem isLower_of_mem_lowercaseAfter {before text : Text} {c : Char}
    (member : c ∈ lowercaseAfter before text) : IsLower c := by
  induction text generalizing before with
  | nil => cases member
  | cons c' rest ih =>
    rw [lowercaseAfter] at member
    rcases List.mem_append.mp member with here | later
    · split at here
      · cases List.mem_singleton.mp here
        rw [lowercaseSigma]
        split <;> decide +kernel
      · rename_i other
        exact isLower_of_mem_lowercaseChar other here
    · exact ih later

theorem lowercaseAfter_of_isLower {before text : Text} (fixed : ∀ c ∈ text, IsLower c) :
    lowercaseAfter before text = text := by
  induction text generalizing before with
  | nil => rfl
  | cons c rest ih =>
    obtain ⟨here, later⟩ := List.forall_mem_cons.mp fixed
    rw [lowercaseAfter, if_neg here.2, here.1, ih later]
    rfl

theorem lowercase_lowercase (text : Text) : text.lowercase.lowercase = text.lowercase :=
  lowercaseAfter_of_isLower fun _ => isLower_of_mem_lowercaseAfter

end Text
end DiagramScript
