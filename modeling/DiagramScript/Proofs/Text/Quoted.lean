import DiagramScript.Text.Quoted
import DiagramScript.Proofs.Number.Numerals

/-! Quoted texts never run into what follows. Every character between the quotes is read back from
its escape (`Text.readEscaped?_escapeChar`), and a quote that stands alone is none, so two quoted
texts at the start of one text are the same (`Text.quoted_append_inj`). They are single lines
whatever characters they show (`Text.quoted_single`). -/
namespace DiagramScript.Text

def Single (text : Text) : Prop := ∀ c ∈ text, c ≠ '\n' ∧ c ≠ '\r'

instance (text : Text) : Decidable text.Single :=
  decidable_of_iff (text.all fun c => c != '\n' && c != '\r') (by simp [Single])

theorem Single.append {left right : Text} (before : left.Single) (after : right.Single) :
    (left ++ right).Single :=
  List.forall_mem_append.mpr ⟨before, after⟩

theorem toDigits_sixteen (n : Nat) :
    Nat.toDigits 16 n =
      if n < 16 then [n.digitChar] else Nat.toDigits 16 (n / 16) ++ [(n % 16).digitChar] :=
  Nat.toDigits_eq_if (by decide)

theorem mem_toDigits_sixteen {n : Nat} {c : Char} (member : c ∈ Nat.toDigits 16 n) :
    ∃ d < 16, c = Nat.digitChar d := by
  induction n using Nat.strong_induction_on with
  | h n ih =>
    rw [toDigits_sixteen] at member
    split at member
    · rename_i single
      exact ⟨n, single, List.mem_singleton.mp member⟩
    · rename_i many
      rcases List.mem_append.mp member with front | last
      · exact ih (n / 16) (by omega) front
      · exact ⟨n % 16, Nat.mod_lt n (by decide), List.mem_singleton.mp last⟩

def hexValue (c : Char) : Nat :=
  if c.isDigit then c.toNat - '0'.toNat else 10 + (c.toNat - 'a'.toNat)

def ofHexDigits (digits : Text) : Nat :=
  digits.foldl (fun n c => 16 * n + hexValue c) 0

theorem hexValue_digitChar : ∀ d < 16, hexValue (Nat.digitChar d) = d := by
  decide

theorem ofHexDigits_toDigits (n : Nat) : ofHexDigits (Nat.toDigits 16 n) = n := by
  induction n using Nat.strong_induction_on with
  | h n ih =>
    rw [toDigits_sixteen]
    split
    · rename_i single
      rw [ofHexDigits, List.foldl_cons, List.foldl_nil, hexValue_digitChar n single]
      omega
    · rename_i many
      have front := ih (n / 16) (by omega)
      rw [ofHexDigits] at front ⊢
      rw [List.foldl_append, front, List.foldl_cons, List.foldl_nil,
        hexValue_digitChar _ (Nat.mod_lt n (by decide))]
      omega

/-- Reads one character in the form that it has between double quotes, where a quote alone has
none. -/
def readEscaped? : Text → Option (Char × Text)
  | '\\' :: '0' :: rest => some ('\x00', rest)
  | '\\' :: 't' :: rest => some ('\t', rest)
  | '\\' :: 'r' :: rest => some ('\r', rest)
  | '\\' :: 'n' :: rest => some ('\n', rest)
  | '\\' :: 'u' :: '\x7b' :: rest =>
    let code := Taken.run (· != '\x7d') rest
    some (Char.ofNat (ofHexDigits code.value), code.rest.tail)
  | '\\' :: c :: rest => some (c, rest)
  | '"' :: _ => none
  | c :: rest => some (c, rest)
  | [] => none

theorem plain_of_mem_toDigits {n : Nat} {d : Char} (member : d ∈ Nat.toDigits 16 n) :
    d ≠ '\x7d' ∧ d ≠ '\n' ∧ d ≠ '\r' := by
  obtain ⟨digit, bound, rfl⟩ := mem_toDigits_sixteen member
  exact (by decide : ∀ digit < 16, Nat.digitChar digit ≠ '\x7d' ∧
    Nat.digitChar digit ≠ '\n' ∧ Nat.digitChar digit ≠ '\r') digit bound

theorem readEscaped?_escapeCode (c : Char) (rest : Text) :
    readEscaped? (escapeCode c ++ rest) = some (c, rest) := by
  have code : Taken.run (· != '\x7d') (Nat.toDigits 16 c.toNat ++ '\x7d' :: rest) =
      ⟨Nat.toDigits 16 c.toNat, Nat.toDigits 16 c.toNat, '\x7d' :: rest⟩ :=
    Taken.run_stops (fun d member => bne_iff_ne.mpr (plain_of_mem_toDigits member).1) rfl
  have split : escapeCode c ++ rest =
      '\\' :: 'u' :: '\x7b' :: (Nat.toDigits 16 c.toNat ++ '\x7d' :: rest) := by
    simp [escapeCode]
  rw [split, readEscaped?, code, ofHexDigits_toDigits, Char.ofNat_toNat]
  rfl

def marks : List (Char × Char) :=
  [('\x00', '0'), ('\t', 't'), ('\r', 'r'), ('\n', 'n'), ('"', '"'), ('\\', '\\')]

theorem escapeChar_cases (c : Char) :
    (∃ letter, (c, letter) ∈ marks ∧ escapeChar c = ['\\', letter]) ∨
      (c ≠ '"' ∧ c ≠ '\\' ∧ c ≠ '\n' ∧ c ≠ '\r') ∧ escapeChar c = [c] ∨
      escapeChar c = escapeCode c := by
  by_cases marked : c ∈ marks.map Prod.fst
  · refine .inl ?_
    simp only [marks, List.map_cons, List.map_nil, List.mem_cons, List.not_mem_nil, or_false]
      at marked
    rcases marked with rfl | rfl | rfl | rfl | rfl | rfl
    exacts [⟨'0', by decide, rfl⟩, ⟨'t', by decide, rfl⟩, ⟨'r', by decide, rfl⟩,
      ⟨'n', by decide, rfl⟩, ⟨'"', by decide, rfl⟩, ⟨'\\', by decide, rfl⟩]
  · simp only [marks, List.map_cons, List.map_nil, List.mem_cons, List.not_mem_nil, or_false,
      not_or] at marked
    obtain ⟨zero, tab, feed, line, quote, slash⟩ := marked
    by_cases shown : isPrintable c = true
    · exact .inr (.inl ⟨⟨quote, slash, line, feed⟩,
        by simp [escapeChar, zero, tab, feed, line, quote, slash, shown]⟩)
    · exact .inr (.inr (by simp [escapeChar, zero, tab, feed, line, quote, slash, shown]))

theorem readEscaped?_escapeChar (c : Char) (rest : Text) :
    readEscaped? (escapeChar c ++ rest) = some (c, rest) := by
  rcases escapeChar_cases c with ⟨letter, marked, form⟩ | ⟨⟨_, slash, _⟩, form⟩ | form
  · rw [form]
    simp only [marks, List.mem_cons, Prod.mk.injEq, List.not_mem_nil, or_false] at marked
    rcases marked with
      ⟨rfl, rfl⟩ | ⟨rfl, rfl⟩ | ⟨rfl, rfl⟩ | ⟨rfl, rfl⟩ | ⟨rfl, rfl⟩ | ⟨rfl, rfl⟩ <;> rfl
  · rw [form]
    simp [readEscaped?, slash]
  · rw [form]
    exact readEscaped?_escapeCode c rest

theorem flatMap_escapeChar_inj {t u r s : Text}
    (same : t.flatMap escapeChar ++ '"' :: r = u.flatMap escapeChar ++ '"' :: s) :
    t = u ∧ r = s := by
  -- The next character of both texts is read from the same characters, or both are at their end.
  induction t generalizing u with
  | nil =>
    cases u with
    | nil => exact ⟨rfl, List.tail_eq_of_cons_eq same⟩
    | cons c u =>
      have read := congrArg readEscaped? same
      rw [List.flatMap_cons, List.append_assoc, readEscaped?_escapeChar] at read
      cases read
  | cons c t ih =>
    have read := congrArg readEscaped? same
    rw [List.flatMap_cons, List.append_assoc, readEscaped?_escapeChar] at read
    cases u with
    | nil => cases read
    | cons c' u =>
      rw [List.flatMap_cons, List.append_assoc, readEscaped?_escapeChar] at read
      obtain ⟨rfl, later⟩ := Prod.mk.inj (Option.some.inj read)
      obtain ⟨rfl, rest⟩ := ih later
      exact ⟨rfl, rest⟩

theorem quoted_append_inj {t u r s : Text} (same : t.quoted ++ r = u.quoted ++ s) :
    t = u ∧ r = s := by
  simp only [quoted, List.cons_append, List.append_assoc, List.cons.injEq, true_and] at same
  exact flatMap_escapeChar_inj same

theorem escapeChar_single (c : Char) : (escapeChar c).Single := by
  rcases escapeChar_cases c with ⟨letter, marked, form⟩ | ⟨⟨_, _, line, feed⟩, form⟩ | form
  · rw [form]
    exact (by decide : ∀ mark ∈ marks, Single ['\\', mark.2]) _ marked
  · rw [form]
    exact List.forall_mem_singleton.mpr ⟨line, feed⟩
  · have digits : Single (Nat.toDigits 16 c.toNat) := fun d member =>
      (plain_of_mem_toDigits member).2
    have front : Single "\\u\x7b".toList := by decide
    have last : Single ['\x7d'] := by decide
    rw [form, escapeCode]
    exact (front.append digits).append last

theorem quoted_single (text : Text) : text.quoted.Single := by
  have escaped : Single (text.flatMap escapeChar) := by
    intro d member
    obtain ⟨c, _, shown⟩ := List.mem_flatMap.mp member
    exact escapeChar_single c d shown
  have quote : Single ['"'] := by decide
  exact (quote.append escaped).append quote

end DiagramScript.Text
