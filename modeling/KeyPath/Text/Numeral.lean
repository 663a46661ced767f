/-!
# Decimal numerals

Reading and writing of whole numbers in base ten, and the range of signed 64-bit integers.
-/

namespace KeyPath.Text.Numeral

def ofDigits (digits : List Char) : Nat :=
  digits.foldl (fun value d => 10 * value + (d.toNat - 48)) 0

/-- Read one or more decimal digits and nothing else. -/
def natural? (text : List Char) : Option Nat :=
  if text ≠ [] ∧ text.all Char.isDigit then some (ofDigits text) else none

/-- Read decimal digits after an optional sign. -/
def integer? : List Char → Option Int
  | '+' :: digits => (natural? digits).map Int.ofNat
  | '-' :: digits => (natural? digits).map fun n => -Int.ofNat n
  | digits => (natural? digits).map Int.ofNat

/-- The signed 64-bit integer of a given value, if there is one. -/
def toInt64? (n : Int) : Option Int64 :=
  if Int64.minValue.toInt ≤ n ∧ n ≤ Int64.maxValue.toInt then some (Int64.ofInt n) else none

def writeNat (n : Nat) : List Char := Nat.toDigits 10 n

/-- Write an integer in decimal, with a sign only if it is negative. -/
def writeInt (n : Int) : List Char :=
  if n < 0 then '-' :: writeNat n.natAbs else writeNat n.natAbs

end KeyPath.Text.Numeral
