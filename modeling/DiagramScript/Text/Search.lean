/-! Looking up an entry of a list by halving, where every entry can be compared with the one that is
looked for. -/
namespace DiagramScript

/-- Index of an entry that compares as equal, among the `size` entries from `base` on. An entry that
is too great leaves those before it, and any other one those from it on. -/
def searchFrom {α : Type} (order : α → Ordering) (entries : List α) (base size : Nat)
    (inside : base + size ≤ entries.length) : Option Nat :=
  if many : 1 < size then
    have bound : base + size / 2 < entries.length := by omega
    if order entries[base + size / 2] = .gt then
      searchFrom order entries base (size - size / 2) (by omega)
    else
      searchFrom order entries (base + size / 2) (size - size / 2) (by omega)
  else if one : size = 1 then
    have bound : base < entries.length := by omega
    if order entries[base] = .eq then some base else none
  else none
termination_by size

def search? {α : Type} (order : α → Ordering) (entries : List α) : Option Nat :=
  searchFrom order entries 0 entries.length (Nat.le_of_eq (Nat.zero_add _))

end DiagramScript
