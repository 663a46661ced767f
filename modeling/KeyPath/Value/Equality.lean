import KeyPath.Value.Basic
/-!
# Equality of values

Scalars are equal by payload, floating point numbers numerically (a NaN equals nothing), arrays
and hashes entry by entry, and objects by identity.
-/

namespace KeyPath.Value

mutual

protected def beq : Value → Value → Bool
  | nil, nil => true
  | bool a, bool b => a == b
  | int a, int b => a == b
  | float a, float b => Binary64.beq a b
  | str a, str b => a == b
  | sym a, sym b => a == b
  | array a, array b => beqItems a b
  | hash a, hash b => beqEntries a b
  | wrapped a _, wrapped b _ => a == b
  | custom a, custom b => a.id == b.id
  | _, _ => false

/-- Whether two lists of values are equal element by element. -/
def beqItems : List Value → List Value → Bool
  | [], [] => true
  | a :: as, b :: bs => a.beq b && beqItems as bs
  | _, _ => false

/-- Whether two lists of entries are equal entry by entry. -/
def beqEntries : List (Key × Value) → List (Key × Value) → Bool
  | [], [] => true
  | (k, a) :: as, (l, b) :: bs => k == l && a.beq b && beqEntries as bs
  | _, _ => false

end

instance : BEq Value := ⟨Value.beq⟩

end KeyPath.Value
