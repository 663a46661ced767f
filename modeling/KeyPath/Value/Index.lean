import KeyPath.Lookup.Error
import KeyPath.Value.Basic
/-!
# Access by one key

A hash takes any key, an array takes integers, which count from the end when negative. A missing
entry or position is no failure; a value without entries, or a key of the wrong kind, is.
-/

namespace KeyPath

/-- The position that an integer names among `length` elements, if it names one. -/
def position? (index : Int) (length : Nat) : Option Nat :=
  if 0 ≤ index then if index.toNat < length then some index.toNat else none
  else if index.natAbs ≤ length then some (length - index.natAbs) else none

theorem position?_eq_some_iff {index : Int} {length position : Nat} :
    position? index length = some position ↔
      position < length ∧ (index = position ∨ index = position - length) := by
  rw [position?]
  split
  · split
    · rw [Option.some.injEq]
      omega
    · simp only [reduceCtorEq, false_iff]
      omega
  · split
    · rw [Option.some.injEq]
      omega
    · simp only [reduceCtorEq, false_iff]
      omega

/-- The position that a key names among `length` elements; only integers name positions. -/
def resolveIndex (key : Key) (length : Nat) : Except DigError (Option Nat) :=
  match key.asIndex? with
  | some index => .ok (position? index.toInt length)
  | none => .error (.invalidIndex key)

def Value.index (value : Value) (key : Key) : Except DigError (Option Value) :=
  match value with
  | .hash entries => .ok (Assoc.get? key entries)
  | .array items =>
    match resolveIndex key items.length with
    | .ok place => .ok (place.bind fun i => items[i]?)
    | .error e => .error e
  | other => .error (.notDiggable other.typeName key)

end KeyPath
