import DiagramScript.Proofs.Script.Records

/-! What lines read of the bindings. A statement looks up the names that its arguments refer to and
the name that it binds, so it says the same with all bindings that agree on these. -/
namespace DiagramScript

def Argument.reference? (argument : Text) : Option Text :=
  match argument.trim with
  | '@' :: name => some (Text.trim name)
  | _ => none

def Statement.binds? (statement : Statement) : Option Text :=
  if statement.command = Command.bindName.name then statement.arguments.head? else none

namespace Bindings

theorem fetch_eq_ok_iff {bindings : Bindings} {name : Text} {value : Coordinate} :
    bindings.fetch name = .ok value ↔ bindings.find? name = some value := by
  rw [fetch]
  cases bindings.find? name <;> simp

theorem find?_after_eq (bindings : Bindings) (records : List Record) (name : Text) :
    (bindings.after records).find? name =
      (bindings.find? name).or ((records.filterMap Record.binding?).lookup name) :=
  List.lookup_append

theorem find?_after_of_other {bindings : Bindings} {record : Record} {name : Text}
    (other : ∀ value, record ≠ .binding name value) :
    (bindings.after [record]).find? name = bindings.find? name := by
  rw [find?_after_eq]
  cases record with
  | binding name' value =>
    have apart : (name == name') = false := by
      rw [beq_eq_false_iff_ne]
      exact fun same => other value (same ▸ rfl)
    simp [Record.binding?, List.lookup_cons, apart]
  | _ => simp [Record.binding?, List.filterMap_cons]

theorem find?_of_after_eq_none {bindings : Bindings} {records : List Record} {name : Text}
    (free : (bindings.after records).find? name = none) : bindings.find? name = none := by
  cases bound : bindings.find? name with
  | none => rfl
  | some value => rw [find?_after bound] at free; cases free

theorem find?_after_congr {first second : Bindings}
    (same : ∀ name, first.find? name = second.find? name) (records : List Record) (name : Text) :
    (first.after records).find? name = (second.after records).find? name := by
  rw [find?_after_eq, find?_after_eq, same]

theorem find?_after_swap (bindings : Bindings) {first second : Record}
    (apart : ∀ name value value', first = .binding name value → second ≠ .binding name value')
    (name : Text) : (bindings.after [second, first]).find? name =
      (bindings.after [first, second]).find? name := by
  rw [find?_after_eq, find?_after_eq]
  congr 1
  cases first with
  | binding name' value' =>
    cases second with
    | binding name'' value'' =>
      have other : name' ≠ name'' := fun same => apart name' value' value'' rfl (same ▸ rfl)
      by_cases here : name = name'
      · subst here
        simp [Record.binding?, List.lookup_cons, beq_eq_false_iff_ne.mpr other]
      · simp [Record.binding?, List.lookup_cons, beq_eq_false_iff_ne.mpr here]
    | _ => rfl
  | _ => cases second <;> rfl

end Bindings

theorem Argument.coordinate_transfer {first second : Bindings} {argument : Text}
    {place : Coordinate} (read : coordinate first argument = .ok place)
    (found : ∀ name value, reference? argument = some name → first.find? name = some value →
      second.find? name = some value) : coordinate second argument = .ok place := by
  rw [coordinate] at read ⊢
  rw [reference?] at found
  generalize argument.trim = text at read found ⊢
  unfold coordinateTrimmed at read ⊢
  split at read
  · exact read
  · rename_i name
    exact Bindings.fetch_eq_ok_iff.mpr
      (found _ place rfl (Bindings.fetch_eq_ok_iff.mp read))
  · exact read

namespace Says

variable {first second : Bindings} {statement : Statement} {record : Record}

theorem transfer (meaning : Says first statement record)
    (found : ∀ argument ∈ statement.arguments, ∀ name value,
      Argument.reference? argument = some name → first.find? name = some value →
        second.find? name = some value)
    (free : ∀ name value, record = .binding name value → second.find? name = none) :
    Says second statement record := by
  cases meaning with
  | xRange read read' => exact .xRange read read'
  | yRange read read' => exact .yRange read read'
  | xInterval read => exact .xInterval read
  | yInterval read => exact .yInterval read
  | binding read _ =>
    exact .binding (Argument.coordinate_transfer read (found _ (by simp))) (free _ _ rfl)
  | point read => exact .point (Argument.coordinate_transfer read (found _ (by simp)))
  | segment read read' =>
    exact .segment (Argument.coordinate_transfer read (found _ (by simp)))
      (Argument.coordinate_transfer read' (found _ (by simp)))
  | label read => exact .label (Argument.coordinate_transfer read (found _ (by simp)))
  | circle read => exact .circle read

theorem free {name : Text} {value : Coordinate}
    (meaning : Says first statement (.binding name value)) : first.find? name = none := by
  cases meaning with
  | binding _ free => exact free

theorem binds {name : Text} {value : Coordinate}
    (meaning : Says first statement (.binding name value)) : statement.binds? = some name := by
  cases meaning with
  | binding => rfl

end Says

theorem tells_congr {first second : Bindings}
    (same : ∀ name, first.find? name = second.find? name) {lines : List Text}
    {records : List Record} (tells : Tells first lines records) : Tells second lines records := by
  induction tells generalizing second with
  | nil => exact .nil
  | cons read meaning _ ih =>
    refine .cons read ?_ (ih (Bindings.find?_after_congr same _))
    refine meaning.transfer (fun _ _ name value _ found => (same name).symm.trans found) ?_
    rintro name value rfl
    exact (same name).symm.trans meaning.free

theorem tells_append {bindings : Bindings} {first others : List Text} {records : List Record} :
    Tells bindings (first ++ others) records ↔ ∃ early late, records = early ++ late ∧
      Tells bindings first early ∧ Tells (bindings.after early) others late := by
  induction first generalizing bindings records with
  | nil =>
    constructor
    · intro tells
      exact ⟨[], records, rfl, .nil, by rwa [Bindings.after_nil]⟩
    · rintro ⟨early, late, rfl, none, tells⟩
      cases none
      rwa [Bindings.after_nil] at tells
  | cons line first ih =>
    constructor
    · intro tells
      cases tells with
      | cons read meaning tells =>
        obtain ⟨early, late, rfl, here, later⟩ := ih.mp tells
        rw [Bindings.after_after] at later
        exact ⟨_ :: early, late, rfl, .cons read meaning here, later⟩
    · rintro ⟨early, late, rfl, here, later⟩
      cases here with
      | @cons _ _ _ record _ early read meaning here =>
        refine .cons read meaning (ih.mpr ⟨early, late, rfl, here, ?_⟩)
        rwa [Bindings.after_after]

end DiagramScript
