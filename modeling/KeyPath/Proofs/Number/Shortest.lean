import KeyPath.Proofs.Number.Interval
import Mathlib.Tactic.FieldSimp
/-!
# The shortest decimal identifies its number

The decimal that is written for a number rounds to it. With 17 digits the decimals are so close that
one of the two next to the number is in its rounding interval.
-/

namespace KeyPath

/-- Powers of two bases compare if their exponents do, weighed by a comparison of fixed powers. -/
private theorem pow_le_pow_of_weights {a b : ℚ} (ha : 0 ≤ a) (hb : 1 ≤ b) {p q x y : Nat}
    (hp : p ≠ 0) (hbase : a ^ p ≤ b ^ q) (h : q * x ≤ p * y) : a ^ x ≤ b ^ y := by
  have hpowers : (a ^ x) ^ p ≤ (b ^ y) ^ p := by
    calc (a ^ x) ^ p = (a ^ p) ^ x := by rw [← pow_mul, ← pow_mul, Nat.mul_comm]
      _ ≤ (b ^ q) ^ x := pow_le_pow_left₀ (pow_nonneg ha p) hbase x
      _ = b ^ (q * x) := (pow_mul b q x).symm
      _ ≤ b ^ (p * y) := pow_le_pow_right₀ hb h
      _ = (b ^ y) ^ p := by rw [Nat.mul_comm, pow_mul]
  exact (pow_le_pow_iff_left₀ (pow_nonneg ha x) (by positivity) hp).mp hpowers

private theorem ten_zpow_le_two_zpow {n : Int} (hlow : -1074 ≤ n) (hhigh : n ≤ 1023) :
    (10 : ℚ) ^ (n * 30103 / 100000 - 1) ≤ 2 ^ n := by
  have hten : (10 : ℚ) ^ 59 ≤ 2 ^ 196 := by norm_num
  have htwo : (2 : ℚ) ^ 93 ≤ 10 ^ 28 := by norm_num
  rcases lt_or_ge n 0 with hneg | hpos
  · obtain ⟨x, hx⟩ := Int.exists_eq_neg_ofNat hneg.le
    obtain ⟨y, hy⟩ : ∃ y : Nat, n * 30103 / 100000 - 1 = -(y : Int) :=
      Int.exists_eq_neg_ofNat (by omega)
    have hpow : (2 : ℚ) ^ x ≤ 10 ^ y :=
      pow_le_pow_of_weights (by norm_num) (by norm_num) (by norm_num) htwo (by omega)
    rw [hy, hx, zpow_neg, zpow_neg, zpow_natCast, zpow_natCast]
    exact inv_anti₀ (by positivity) hpow
  · obtain ⟨y, hy⟩ := Int.eq_ofNat_of_zero_le hpos
    rcases lt_or_ge (n * 30103 / 100000 - 1) 0 with hsmall | hlarge
    · have hone : (1 : ℚ) ≤ 2 ^ n := one_le_zpow₀ one_le_two hpos
      exact (zpow_le_one_of_nonpos₀ (by norm_num) hsmall.le).trans hone
    · obtain ⟨x, hx⟩ := Int.eq_ofNat_of_zero_le hlarge
      have hpow : (10 : ℚ) ^ x ≤ 2 ^ y :=
        pow_le_pow_of_weights (by norm_num) (by norm_num) (by norm_num) hten (by omega)
      rw [hx, hy, zpow_natCast, zpow_natCast]
      exact hpow

namespace Decimal

def value (x : Decimal) : ℚ := x.coefficient * 10 ^ x.exponent

private theorem value_trim (n : Nat) (x : Decimal) : (trim n x).value = x.value := by
  induction n generalizing x with
  | zero => rfl
  | succ n ih =>
    rw [trim]
    split
    · next hzero =>
      rw [ih, value, value]
      have hcoefficient : x.coefficient = x.coefficient / 10 * 10 := by omega
      have hcast : (x.coefficient : ℚ) = (x.coefficient / 10 : Nat) * 10 := by
        exact_mod_cast hcoefficient
      rw [hcast, zpow_add_one₀ (by norm_num)]
      ring
    · rfl

namespace Grid

private theorem exists_unit (exponent gridExponent : Int) :
    ∃ unit : ℚ, 0 < unit ∧
      (ofExponents exponent gridExponent).quarter * unit = 2 ^ (exponent - 2) ∧
      (ofExponents exponent gridExponent).step * unit = 10 ^ gridExponent := by
  have htwo : exponent - 2 = ((exponent - 2).toNat : Int) - ((2 - exponent).toNat : Int) := by omega
  have hten : gridExponent = (gridExponent.toNat : Int) - ((-gridExponent).toNat : Int) := by omega
  refine ⟨1 / (2 ^ (2 - exponent).toNat * 10 ^ (-gridExponent).toNat), by positivity, ?_, ?_⟩
  · conv_rhs => rw [htwo, zpow_sub₀ two_ne_zero, zpow_natCast, zpow_natCast]
    simp only [ofExponents, twoTo, tenTo, Nat.pow_eq]
    push_cast
    field_simp
  · conv_rhs => rw [hten, zpow_sub₀ (by norm_num), zpow_natCast, zpow_natCast]
    simp only [ofExponents, twoTo, tenTo, Nat.pow_eq]
    push_cast
    field_simp

variable {e g : Int} {a b : Nat}

private theorem step_lt_iff :
    a * (ofExponents e g).step < b * (ofExponents e g).quarter ↔
      (a : ℚ) * 10 ^ g < b * 2 ^ (e - 2) := by
  obtain ⟨unit, hunit, hquarter, hstep⟩ := exists_unit e g
  rw [← hquarter, ← hstep, ← mul_assoc, ← mul_assoc, mul_lt_mul_iff_left₀ hunit]
  exact_mod_cast Iff.rfl

private theorem quarter_lt_iff :
    b * (ofExponents e g).quarter < a * (ofExponents e g).step ↔
      (b : ℚ) * 2 ^ (e - 2) < a * 10 ^ g := by
  obtain ⟨unit, hunit, hquarter, hstep⟩ := exists_unit e g
  rw [← hquarter, ← hstep, ← mul_assoc, ← mul_assoc, mul_lt_mul_iff_left₀ hunit]
  exact_mod_cast Iff.rfl

private theorem quarter_pos (e g : Int) : 0 < (ofExponents e g).quarter :=
  Nat.mul_pos (twoTo_pos _) (tenTo_pos _)

private theorem step_pos (e g : Int) : 0 < (ofExponents e g).step :=
  Nat.mul_pos (twoTo_pos _) (tenTo_pos _)

end Grid

variable {tie : Tie} {m : Nat} {e g : Int}

private theorem isInside_eq (grid : Grid) (k : Nat) :
    isInside m e grid k =
      if m % 2 = 0 then
        decide ((4 * m - gapBelow m e) * grid.quarter ≤ k * grid.step) &&
          decide (k * grid.step ≤ (4 * m + 2) * grid.quarter)
      else
        decide ((4 * m - gapBelow m e) * grid.quarter < k * grid.step) &&
          decide (k * grid.step < (4 * m + 2) * grid.quarter) :=
  rfl

theorem isInside_iff (k : Nat) :
    isInside m e (Grid.ofExponents e g) k = true ↔ RoundsTo m e (k * 10 ^ g) := by
  rw [isInside_eq, RoundsTo, lowEnd, highEnd]
  split
  · rw [Bool.and_eq_true, decide_eq_true_iff, decide_eq_true_iff, ← not_lt, ← not_lt,
      Grid.step_lt_iff, Grid.quarter_lt_iff, not_lt, not_lt]
  · rw [Bool.and_eq_true, decide_eq_true_iff, decide_eq_true_iff, Grid.step_lt_iff,
      Grid.quarter_lt_iff]

private theorem roundsTo_of_nearest? {x : Decimal} (h : nearest? tie m e g = some x) :
    RoundsTo m e x.value := by
  simp only [nearest?] at h
  split at h
  · next hbelow =>
    cases h
    exact (isInside_iff _).mp (Bool.and_eq_true _ _ ▸ hbelow).1
  · split at h
    · next habove =>
      cases h
      exact (isInside_iff _).mp habove
    · cases h

private theorem isInside_of_lt {grid : Grid} {k : Nat} (hm : 0 < m)
    (hlow : 4 * m * grid.quarter < k * grid.step + gapBelow m e * grid.quarter)
    (hhigh : k * grid.step < 4 * m * grid.quarter + 2 * grid.quarter) :
    isInside m e grid k = true := by
  have hbelow : (4 * m - gapBelow m e) * grid.quarter < k * grid.step := by
    have hgap := gapBelow_le m e
    have hleast : gapBelow m e * grid.quarter ≤ 4 * m * grid.quarter :=
      Nat.mul_le_mul_right _ (by omega)
    rw [Nat.sub_mul]
    omega
  have habove : k * grid.step < (4 * m + 2) * grid.quarter := by
    rw [Nat.add_mul]
    exact hhigh
  rw [isInside_eq]
  split
  · exact Bool.and_eq_true_iff.mpr ⟨decide_eq_true hbelow.le, decide_eq_true habove.le⟩
  · exact Bool.and_eq_true_iff.mpr ⟨decide_eq_true hbelow, decide_eq_true habove⟩

private theorem isInside_or {below : Nat} (hm : 0 < m)
    (hfine : (Grid.ofExponents e g).step < 4 * (Grid.ofExponents e g).quarter)
    (hpower : m = twoTo 52 → (Grid.ofExponents e g).step < 3 * (Grid.ofExponents e g).quarter)
    (hb : below = 4 * m * (Grid.ofExponents e g).quarter / (Grid.ofExponents e g).step) :
    isInside m e (Grid.ofExponents e g) below = true ∨
      isInside m e (Grid.ofExponents e g) (below + 1) = true := by
  have hstep := Grid.step_pos e g
  generalize Grid.ofExponents e g = grid at *
  have hdivision := Nat.div_add_mod (4 * m * grid.quarter) grid.step
  have hremainder := Nat.mod_lt (4 * m * grid.quarter) hstep
  rw [← hb, Nat.mul_comm grid.step] at hdivision
  have hover : grid.step < (gapBelow m e + 2) * grid.quarter := by
    unfold gapBelow
    split
    · next h => exact hpower h.1
    · exact hfine
  rw [Nat.add_mul] at hover
  by_cases hnear : 4 * m * grid.quarter % grid.step < gapBelow m e * grid.quarter
  · left
    apply isInside_of_lt hm
    · omega
    · omega
  · right
    apply isInside_of_lt hm
    · rw [Nat.add_mul]
      omega
    · rw [Nat.add_mul]
      omega

theorem exists_nearest? (hm : 0 < m)
    (hfine : (Grid.ofExponents e g).step < 4 * (Grid.ofExponents e g).quarter)
    (hpower : m = twoTo 52 → (Grid.ofExponents e g).step < 3 * (Grid.ofExponents e g).quarter) :
    ∃ x, nearest? tie m e g = some x := by
  have hinside := isInside_or hm hfine hpower rfl
  simp only [nearest?]
  split
  · exact ⟨_, rfl⟩
  · next hbelow =>
    split
    · exact ⟨_, rfl⟩
    · next habove =>
      rcases hinside with h | h
      · rw [h] at hbelow
        simp [habove] at hbelow
      · exact absurd h habove

private theorem ten_zpow_ceilingExponent_le (hn : IsNormalForm m e) (hm : 0 < m) :
    (10 : ℚ) ^ (ceilingExponent m e - 1) ≤ m * 2 ^ e := by
  have hquarters : ((4 * m : Nat) : ℚ) * 2 ^ (e - 2) = m * 2 ^ e := by
    rw [zpow_sub₀ two_ne_zero]
    push_cast
    ring
  have hreached (g : Int)
      (h : ¬4 * m * (Grid.ofExponents e g).quarter < (Grid.ofExponents e g).step) :
      (10 : ℚ) ^ g ≤ m * 2 ^ e := by
    rw [← Nat.one_mul (Grid.ofExponents e g).step, Grid.quarter_lt_iff, hquarters, not_lt,
      Nat.cast_one, one_mul] at h
    exact h
  simp only [ceilingExponent, decide_eq_true_eq]
  split
  · have hlog : (2 : ℚ) ^ m.log2 ≤ m := by exact_mod_cast Nat.log2_self_le hm.ne'
    have hdigits : m.log2 < 53 := (Nat.log2_lt hm.ne').mpr hn.1
    have hlow := hn.2.1
    have hhigh := hn.2.2.1
    calc (10 : ℚ) ^ (((m.log2 : Int) + e) * 30103 / 100000 - 1)
        ≤ 2 ^ ((m.log2 : Int) + e) := ten_zpow_le_two_zpow (by omega) (by omega)
      _ = 2 ^ m.log2 * 2 ^ e := by rw [zpow_add₀ two_ne_zero, zpow_natCast]
      _ ≤ m * 2 ^ e := mul_le_mul_of_nonneg_right hlog (by positivity)
  · next hguess =>
    split
    · rw [add_sub_cancel_right]
      exact hreached _ hguess
    · next hnext =>
      have hone (n : Int) : n + 2 - 1 = n + 1 := by ring
      rw [hone]
      exact hreached _ hnext

private theorem step_le_of_digits (hn : IsNormalForm m e) (hm : 0 < m) :
    10 ^ 16 * (Grid.ofExponents e (ceilingExponent m e - 17)).step ≤
      4 * m * (Grid.ofExponents e (ceilingExponent m e - 17)).quarter := by
  have hceiling := ten_zpow_ceilingExponent_le hn hm
  rw [← not_lt, Grid.quarter_lt_iff, not_lt]
  calc ((10 ^ 16 : Nat) : ℚ) * 10 ^ (ceilingExponent m e - 17)
      = 10 ^ (ceilingExponent m e - 1) := by
        rw [show ceilingExponent m e - 1 = ceilingExponent m e - 17 + (16 : Nat) by push_cast; ring,
          zpow_add₀ (by norm_num), zpow_natCast]
        push_cast
        ring
    _ ≤ m * 2 ^ e := hceiling
    _ = ((4 * m : Nat) : ℚ) * 2 ^ (e - 2) := by
        rw [zpow_sub₀ two_ne_zero]
        push_cast
        ring

/-- The shortest decimal of a positive number rounds to that number. -/
theorem roundsTo_shortest (tie : Tie) (hn : IsNormalForm m e) (hm : 0 < m) :
    RoundsTo m e (shortest tie m e).value := by
  have hfull : twoTo 53 = 9007199254740992 := by decide
  have hhalf : twoTo 52 = 4503599627370496 := by decide
  have hsteps := step_le_of_digits hn hm
  have hquarter := Grid.quarter_pos e (ceilingExponent m e - 17)
  have hlast : ∃ x, nearest? tie m e (ceilingExponent m e - 17) = some x := by
    have hbound (n : Nat) (hle : m ≤ n) :
        4 * m * (Grid.ofExponents e (ceilingExponent m e - 17)).quarter ≤
          4 * n * (Grid.ofExponents e (ceilingExponent m e - 17)).quarter :=
      Nat.mul_le_mul_right _ (Nat.mul_le_mul_left 4 hle)
    apply exists_nearest? hm
    · have hsignificand := hn.1
      have hgreatest := hbound 9007199254740991 (by omega)
      omega
    · intro hpower
      have hleast := hbound 4503599627370496 (by omega)
      omega
  have hfound : ((List.range 17).findSome? fun (digits : Nat) =>
      nearest? tie m e (ceilingExponent m e - digits - 1)).isSome = true := by
    rw [List.findSome?_isSome_iff]
    refine ⟨16, by decide, ?_⟩
    have hexponent : ceilingExponent m e - (16 : Nat) - 1 = ceilingExponent m e - 17 := by omega
    rw [hexponent]
    exact Option.isSome_iff_exists.mpr hlast
  obtain ⟨x, hx⟩ := Option.isSome_iff_exists.mp hfound
  obtain ⟨digits, _, hnearest⟩ := List.exists_of_findSome?_eq_some hx
  rw [shortest]
  simp only [hx, Option.getD_some, value_trim]
  exact roundsTo_of_nearest? hnearest

end Decimal

end KeyPath
