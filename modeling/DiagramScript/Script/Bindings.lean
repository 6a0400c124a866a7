import DiagramScript.Script.Error

/-! Names for coordinates. A name is bound once and keeps its value. -/
namespace DiagramScript

structure Bindings where
  entries : List (Text × Coordinate)
deriving DecidableEq

namespace Bindings

def empty : Bindings := ⟨[]⟩

def find? (bindings : Bindings) (name : Text) : Option Coordinate :=
  bindings.entries.lookup name

def bind (bindings : Bindings) (name : Text) (value : Coordinate) :
    Except ScriptError Bindings :=
  match bindings.find? name with
  | some _ => .error (.alreadyBound name value)
  | none => .ok ⟨bindings.entries ++ [(name, value)]⟩

def fetch (bindings : Bindings) (name : Text) : Except ScriptError Coordinate :=
  match bindings.find? name with
  | some value => .ok value
  | none => .error (.notBound name)

def size (bindings : Bindings) : Nat := bindings.entries.length

def isEmpty (bindings : Bindings) : Bool := bindings.entries.isEmpty

/-- Equality as functions from names to places; the order of binding does not count. -/
def agrees (left right : Bindings) : Bool :=
  left.size == right.size &&
    left.entries.all fun (name, value) =>
      match right.find? name with
      | some value' => value.agrees value'
      | none => false

end Bindings
end DiagramScript
