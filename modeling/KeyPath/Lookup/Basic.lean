import KeyPath.Lookup.Error
import KeyPath.Value.Basic
/-!
# Outcomes of lookups

A lookup that does not fail finds a value or nothing. Landing on a stored nil counts as finding
nothing.
-/

namespace KeyPath

inductive Lookup where
  | found (value : Value)
  | absent

instance : Inhabited Lookup := ⟨.absent⟩

abbrev DigResult := Except DigError Lookup

namespace Lookup

def ofValue (value : Value) : Lookup := if value.isNil then absent else found value

/-- The outcome of landing on a value, or on nothing. -/
def ofOption : Option Value → Lookup
  | some value => ofValue value
  | none => absent

def isAbsent : Lookup → Bool
  | absent => true
  | found _ => false

def value? : Lookup → Option Value
  | found value => some value
  | absent => none

/-- The value found, nil standing for absence. -/
def valueOrNil (lookup : Lookup) : Value := lookup.value?.getD .nil

@[simp] theorem ofValue_nil : ofValue .nil = absent := rfl

theorem ofValue_of_ne_nil {v : Value} (h : v ≠ .nil) : ofValue v = found v := by
  simp [ofValue, h]

end Lookup

end KeyPath
