import KeyPath.Number.Shortest
import Mathlib.Algebra.Order.Field.Power
import Mathlib.Tactic.Linarith
import Mathlib.Tactic.NormNum
import Mathlib.Tactic.Positivity
import Mathlib.Tactic.Ring
/-!
# Rounding intervals

The numbers that round to a positive number of the format fill an interval between two midpoints.
The interval lies between those of the neighbours, and a midpoint belongs to at most one of the two
intervals that it bounds. So a number rounds to one number of the format only.
-/

namespace KeyPath

/-- The gap below a significand, in quarters of its unit in the last place, goes to the midpoint:
two quarters, and one below a power of two. -/
def gapBelow (significand : Nat) (exponent : Int) : Nat :=
  if significand = twoTo 52 ∧ exponent ≠ -1074 then 1 else 2

/-- The midpoint below `significand * 2 ^ exponent`. -/
def lowEnd (significand : Nat) (exponent : Int) : ℚ :=
  ((4 * significand - gapBelow significand exponent : Nat) : ℚ) * 2 ^ (exponent - 2)

/-- The midpoint above `significand * 2 ^ exponent`. -/
def highEnd (significand : Nat) (exponent : Int) : ℚ :=
  ((4 * significand + 2 : Nat) : ℚ) * 2 ^ (exponent - 2)

/-- A number rounds to `significand * 2 ^ exponent`. A midpoint does if the significand is even. -/
def RoundsTo (significand : Nat) (exponent : Int) (x : ℚ) : Prop :=
  if significand % 2 = 0 then lowEnd significand exponent ≤ x ∧ x ≤ highEnd significand exponent
  else lowEnd significand exponent < x ∧ x < highEnd significand exponent

variable {m m' : Nat} {e e' : Int} {x : ℚ}

theorem RoundsTo.bounds (h : RoundsTo m e x) : lowEnd m e ≤ x ∧ x ≤ highEnd m e := by
  rw [RoundsTo] at h
  split at h
  · exact h
  · exact ⟨h.1.le, h.2.le⟩

theorem RoundsTo.strict (h : RoundsTo m e x) (hodd : m % 2 = 1) :
    lowEnd m e < x ∧ x < highEnd m e := by
  rw [RoundsTo, if_neg (by omega)] at h
  exact h

theorem gapBelow_le (m : Nat) (e : Int) : gapBelow m e ≤ 2 := by
  rw [gapBelow]
  split <;> omega

theorem lowEnd_pos (h : 0 < m) : 0 < lowEnd m e := by
  have hgap := gapBelow_le m e
  have hcount : 0 < 4 * m - gapBelow m e := by omega
  exact mul_pos (Nat.cast_pos.mpr hcount) (by positivity)

/-- Of two intervals in order, the first ends before the second begins, or they meet in a midpoint
which does not belong to one of them. -/
def Meets (m : Nat) (e : Int) (m' : Nat) (e' : Int) : Prop :=
  highEnd m e ≤ lowEnd m' e' ∧ (highEnd m e = lowEnd m' e' → m % 2 = 1 ∨ m' % 2 = 1)

private theorem meets_of_lt (h : m < m') : Meets m e m' e := by
  have hgap := gapBelow_le m' e
  have hunit : (0 : ℚ) < 2 ^ (e - 2) := by positivity
  constructor
  · apply mul_le_mul_of_nonneg_right _ hunit.le
    exact Nat.cast_le.mpr (by omega)
  · intro heq
    have hcount : 4 * m + 2 = 4 * m' - gapBelow m' e :=
      Nat.cast_injective (mul_right_cancel₀ hunit.ne' heq)
    omega

private theorem meets_of_exponent_lt (hn : IsNormalForm m e) (hn' : IsNormalForm m' e')
    (h : e < e') :
    Meets m e m' e' := by
  have hleast : e' ≠ -1074 := by
    have hbound := hn.2.1
    omega
  have hm' : twoTo 52 ≤ m' := hn'.2.2.2.resolve_right hleast
  have hm : m < twoTo 53 := hn.1
  have hfull : twoTo 53 = 9007199254740992 := by decide
  have hhalf : twoTo 52 = 4503599627370496 := by decide
  have hgap : 4 * 4503599627370496 - 1 ≤ 4 * m' - gapBelow m' e' := by
    rw [gapBelow]
    split <;> omega
  have hunit : (0 : ℚ) < 2 ^ (e - 2) := by positivity
  have hdouble : (2 : ℚ) * 2 ^ (e - 2) ≤ 2 ^ (e' - 2) := by
    rw [← zpow_one_add₀ two_ne_zero]
    exact zpow_le_zpow_right₀ one_le_two (by omega)
  have hlow : (36028797018963966 : ℚ) * 2 ^ (e - 2) ≤ lowEnd m' e' := by
    have hcount : ((4 * 4503599627370496 - 1 : Nat) : ℚ) ≤
        ((4 * m' - gapBelow m' e' : Nat) : ℚ) := Nat.cast_le.mpr hgap
    calc (36028797018963966 : ℚ) * 2 ^ (e - 2)
        = ((4 * 4503599627370496 - 1 : Nat) : ℚ) * (2 * 2 ^ (e - 2)) := by norm_num; ring
      _ ≤ ((4 * m' - gapBelow m' e' : Nat) : ℚ) * 2 ^ (e' - 2) :=
        mul_le_mul hcount hdouble (by positivity) (by positivity)
  have hhigh : highEnd m e ≤ 36028797018963966 * 2 ^ (e - 2) := by
    have hcount : ((4 * m + 2 : Nat) : ℚ) ≤ ((36028797018963966 : Nat) : ℚ) :=
      Nat.cast_le.mpr (by omega)
    exact mul_le_mul_of_nonneg_right hcount hunit.le
  refine ⟨hhigh.trans hlow, ?_⟩
  -- Only the greatest significand reaches the next interval, and it is odd.
  intro heq
  have hreach : (36028797018963966 : ℚ) * 2 ^ (e - 2) ≤ highEnd m e := heq ▸ hlow
  have hcount : ((36028797018963966 : Nat) : ℚ) ≤ ((4 * m + 2 : Nat) : ℚ) :=
    le_of_mul_le_mul_right hreach hunit
  have hgreatest := Nat.cast_le.mp hcount
  omega

private theorem not_roundsTo_of_meets (h : Meets m e m' e') (hx : RoundsTo m e x) :
    ¬RoundsTo m' e' x := by
  intro hx'
  have hhigh := hx.bounds.2
  have hlow := hx'.bounds.1
  have heq : highEnd m e = lowEnd m' e' := le_antisymm h.1 (hlow.trans hhigh)
  rcases h.2 heq with hodd | hodd
  · exact absurd (hlow.trans_lt (hx.strict hodd).2) (by rw [heq]; exact lt_irrefl _)
  · exact absurd ((hx'.strict hodd).1.trans_le hhigh) (by rw [heq]; exact lt_irrefl _)

/-- A number rounds to one number of the format only. -/
theorem RoundsTo.unique (hn : IsNormalForm m e) (hn' : IsNormalForm m' e') (hx : RoundsTo m e x)
    (hx' : RoundsTo m' e' x) : m = m' ∧ e = e' := by
  rcases lt_trichotomy e e' with he | rfl | he
  · exact absurd hx' (not_roundsTo_of_meets (meets_of_exponent_lt hn hn' he) hx)
  · rcases lt_trichotomy m m' with hm | rfl | hm
    · exact absurd hx' (not_roundsTo_of_meets (meets_of_lt hm) hx)
    · exact ⟨rfl, rfl⟩
    · exact absurd hx (not_roundsTo_of_meets (meets_of_lt hm) hx')
  · exact absurd hx (not_roundsTo_of_meets (meets_of_exponent_lt hn' hn he) hx')

end KeyPath
