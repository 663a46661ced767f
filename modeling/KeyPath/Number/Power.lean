/-!
# Powers of two and ten
-/

namespace KeyPath

def twoTo (exponent : Nat) : Nat := Nat.pow 2 exponent

def tenTo (exponent : Nat) : Nat := Nat.pow 10 exponent

theorem twoTo_succ (n : Nat) : twoTo (n + 1) = 2 * twoTo n := Nat.mul_comm _ _

theorem twoTo_pos (n : Nat) : 0 < twoTo n := Nat.pow_pos (by decide)

theorem tenTo_pos (n : Nat) : 0 < tenTo n := Nat.pow_pos (by decide)

end KeyPath
