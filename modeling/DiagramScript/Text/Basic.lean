/-! Text as the list of its characters. Every rule of the language, from comments to numerals,
is stated on this list; offsets count the bytes of the UTF-8 form. -/
namespace DiagramScript

abbrev Text := List Char

/-- Sets of characters given by ranges of code points, both ends included. -/
abbrev CharRanges := List (Nat × Nat)

def CharRanges.contains (ranges : CharRanges) (c : Char) : Bool :=
  ranges.any fun range => range.1 ≤ c.toNat && c.toNat ≤ range.2

namespace Text

def byteLength : Text → Nat
  | [] => 0
  | c :: rest => c.utf8Size + byteLength rest

theorem byteLength_append (left right : Text) :
    byteLength (left ++ right) = byteLength left + byteLength right := by
  induction left with
  | nil => exact (Nat.zero_add _).symm
  | cons c left ih =>
    rw [List.cons_append, byteLength, byteLength, ih, Nat.add_assoc]

end Text
end DiagramScript
