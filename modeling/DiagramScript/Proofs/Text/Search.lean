import DiagramScript.Text.Search
import Mathlib.Data.List.Sort
import Mathlib.Order.Compare

/-! The search by halving decides membership in a list that increases. -/
namespace DiagramScript

theorem of_searchFrom_eq_some {α : Type} {order : α → Ordering} {entries : List α}
    {base size i : Nat} {inside : base + size ≤ entries.length}
    (found : searchFrom order entries base size inside = some i) :
    ∃ bound : i < entries.length, order entries[i] = .eq := by
  fun_induction searchFrom order entries base size inside with
  | case1 _ _ _ _ _ _ ih => exact ih found
  | case2 _ _ _ _ _ _ ih => exact ih found
  | case3 base _ _ bound same =>
    cases found
    exact ⟨bound, same⟩
  | case4 => cases found
  | case5 => cases found

variable {α : Type} [LinearOrder α] {entries : List α}

/-- The index of an entry is never cut off from the part that is left to search. -/
theorem searchFrom_getElem (sorted : entries.SortedLT) {base size i : Nat}
    {inside : base + size ≤ entries.length} (bound : i < entries.length) (first : base ≤ i)
    (last : i < base + size) :
    searchFrom (fun other => compare other entries[i]) entries base size inside = some i := by
  have less_iff (j : Nat) (other : j < entries.length) : entries[i] < entries[j] ↔ i < j :=
    sorted.getElem_lt_getElem_iff
  -- The window from `base` on always has the index inside, so it is what is left at size one.
  fun_induction searchFrom (fun other => compare other entries[i]) entries base size inside with
  | case1 base size inside many middle greater ih =>
    have less : i < base + size / 2 := (less_iff _ middle).mp (compare_gt_iff_gt.mp greater)
    exact ih first (by omega)
  | case2 base size inside many middle other ih =>
    have less : ¬i < base + size / 2 := fun less =>
      other (compare_gt_iff_gt.mpr ((less_iff _ middle).mpr less))
    exact ih (by omega) (by omega)
  | case3 base =>
    rw [show base = i by omega]
  | case4 base _ _ _ other =>
    obtain rfl : base = i := by omega
    exact absurd (compare_eq_iff_eq.mpr rfl) other
  | case5 => omega

/-- Nothing else is found, and nothing is missed. -/
theorem search?_isSome_iff (sorted : entries.SortedLT) {entry : α} :
    (search? (fun other => compare other entry) entries).isSome = true ↔ entry ∈ entries := by
  rw [Option.isSome_iff_exists]
  constructor
  · rintro ⟨i, found⟩
    obtain ⟨bound, same⟩ := of_searchFrom_eq_some found
    rw [← compare_eq_iff_eq.mp same]
    exact List.getElem_mem bound
  · intro member
    obtain ⟨i, bound, rfl⟩ := List.getElem_of_mem member
    exact ⟨i, searchFrom_getElem sorted bound (Nat.zero_le i) (by omega)⟩

end DiagramScript
