/-!
# Ranges of code points

A class of characters is given by inclusive ranges of code points in ascending order.
-/

namespace KeyPath.Text

/-- Whether a code point lies in one of some ascending ranges. -/
def inRanges (code : Nat) : List (Nat × Nat) → Bool
  | [] => false
  | (low, high) :: rest => if code < low then false else code ≤ high || inRanges code rest

end KeyPath.Text
