import KeyPath.Number.Power
/-!
# Binary floating point of 64 bits

A finite number is a sign and a significand of at most 53 bits times a power of two, in the one
normal form that the format allows. Results are the exact quotient of two natural numbers,
rounded once to the nearest number of the format, a tie going to the even significand.
-/

namespace KeyPath

/-- A significand and an exponent in normal form: the exponent in range, and the significand of
full length unless the exponent is the least. -/
def IsNormalForm (significand : Nat) (exponent : Int) : Prop :=
  significand < twoTo 53 ∧ -1074 ≤ exponent ∧ exponent ≤ 971 ∧
    (twoTo 52 ≤ significand ∨ exponent = -1074)

instance (significand : Nat) (exponent : Int) : Decidable (IsNormalForm significand exponent) :=
  inferInstanceAs (Decidable (_ ∧ _))

inductive Binary64 where
  | nan
  | infinite (negative : Bool)
  | finite (negative : Bool) (significand : Nat) (exponent : Int)
      (normal : IsNormalForm significand exponent)
  deriving DecidableEq

namespace Binary64

def zero (negative : Bool) : Binary64 := finite negative 0 (-1074) (by decide)

instance : Inhabited Binary64 := ⟨zero false⟩

/-- The number of a given sign, significand and exponent, infinite if it is out of range. -/
def ofParts (negative : Bool) (significand : Nat) (exponent : Int) : Binary64 :=
  if normal : IsNormalForm significand exponent then finite negative significand exponent normal
  else infinite negative

/-- A quotient divided by a power of two, again as a quotient. -/
def shift (num den : Nat) (exponent : Int) : Nat × Nat :=
  if 0 ≤ exponent then (num, den * twoTo exponent.toNat)
  else (num * twoTo (-exponent).toNat, den)

/-- The natural number nearest to a quotient, a tie going to the even neighbour. -/
def nearestEven (num den : Nat) : Nat :=
  let whole := num / den
  let twice := 2 * (num % den)
  if twice < den then whole
  else if den < twice then whole + 1
  else if whole % 2 = 0 then whole else whole + 1

/-- The exponent at which a positive quotient has a significand of full length, or the least. -/
def exponentOf (num den : Nat) : Int :=
  let guess : Int := (num.log2 : Int) - den.log2 - 52
  let (n, d) := shift num den guess
  max (-1074) (if n / d < twoTo 52 then guess - 1 else guess)

/-- The number nearest to a quotient. -/
def round (negative : Bool) (num den : Nat) : Binary64 :=
  if num = 0 then zero negative
  else
    let exponent := exponentOf num den
    let (n, d) := shift num den exponent
    let significand := nearestEven n d
    if significand = twoTo 53 then ofParts negative (twoTo 52) (exponent + 1)
    else ofParts negative significand exponent

def ofNat (n : Nat) : Binary64 := round false n 1

def ofInt (n : Int) : Binary64 := round (n < 0) n.natAbs 1

/-- The number nearest to `coefficient * 10 ^ exponent`. Exponents so large or so small that the
result is infinite or zero are settled without computing the power. -/
def ofDecimal (negative : Bool) (coefficient : Nat) (exponent : Int) : Binary64 :=
  let magnitude : Int := (Nat.toDigits 10 coefficient).length + exponent
  if coefficient = 0 ∨ magnitude < -330 then zero negative
  else if 310 < magnitude then infinite negative
  else if 0 ≤ exponent then round negative (coefficient * tenTo exponent.toNat) 1
  else round negative coefficient (tenTo (-exponent).toNat)

def neg : Binary64 → Binary64
  | nan => nan
  | infinite negative => infinite !negative
  | finite negative significand exponent normal => finite (!negative) significand exponent normal

def isZero : Binary64 → Bool
  | finite _ 0 _ _ => true
  | _ => false

def isFinite : Binary64 → Bool
  | finite _ _ _ _ => true
  | _ => false

/-- Numerical equality: no number equals a NaN, and the two zeros are equal. -/
protected def beq : Binary64 → Binary64 → Bool
  | infinite a, infinite b => a == b
  | finite s m e _, finite s' m' e' _ => (m == 0 && m' == 0) || (s == s' && m == m' && e == e')
  | _, _ => false

def mul : Binary64 → Binary64 → Binary64
  | nan, _ | _, nan => nan
  | infinite s, infinite s' => infinite (s != s')
  | infinite s, finite s' m _ _ | finite s m _ _, infinite s' =>
    if m = 0 then nan else infinite (s != s')
  | finite s m e _, finite s' m' e' _ =>
    let (n, d) := shift (m * m') 1 (-(e + e'))
    round (s != s') n d

def div : Binary64 → Binary64 → Binary64
  | nan, _ | _, nan => nan
  | infinite _, infinite _ => nan
  | infinite s, finite s' _ _ _ => infinite (s != s')
  | finite s _ _ _, infinite s' => zero (s != s')
  | finite s m e _, finite s' m' e' _ =>
    if m' = 0 then if m = 0 then nan else infinite (s != s')
    else
      let (n, d) := shift m m' (e' - e)
      round (s != s') n d

end Binary64

end KeyPath
