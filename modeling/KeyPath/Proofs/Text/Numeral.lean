import KeyPath.Text.Numeral
/-!
# Written numerals

A natural number is written in digits that tell it, without leading zeros; a minus sign stands
in front of a negative integer only. A written number is read back, and different numbers are
therefore written differently.
-/

namespace KeyPath.Text.Numeral

theorem isDigit_of_mem_writeNat {n : Nat} {c : Char} (h : c ∈ writeNat n) : c.isDigit = true :=
  Nat.isDigit_of_mem_toDigits (by decide) (by decide) h

theorem writeNat_ne_nil (n : Nat) : writeNat n ≠ [] := Nat.toDigits_ne_nil

theorem ofDigitChars_writeNat (n : Nat) : Nat.ofDigitChars 10 (writeNat n) 0 = n :=
  Nat.ofDigitChars_ten_toDigits

theorem le_ofDigitChars (digits : List Char) (value : Nat) :
    value ≤ Nat.ofDigitChars 10 digits value := by
  induction digits generalizing value with
  | nil => exact Nat.le_of_eq Nat.ofDigitChars_nil.symm
  | cons c digits ih =>
    have h := ih (10 * value + (c.toNat - '0'.toNat))
    rw [Nat.ofDigitChars_cons]
    omega

private theorem writeNat_eq_append {n : Nat} (h : 10 ≤ n) :
    writeNat n = writeNat (n / 10) ++ writeNat (n % 10) := by
  have happend := Nat.toDigits_append_toDigits (b := 10) (n := n / 10) (d := n % 10) (by decide)
    (by omega) (by omega)
  rw [Nat.div_add_mod] at happend
  exact happend.symm

theorem head?_writeNat_ne_zero {n : Nat} (h : 0 < n) : (writeNat n).head? ≠ some '0' := by
  induction n using Nat.strongRecOn with
  | ind n ih =>
    rcases Nat.lt_or_ge n 10 with hlt | hge
    · rw [writeNat, Nat.toDigits_of_lt_base hlt, List.head?_cons, ne_eq, Option.some.injEq]
      intro hc
      have hn := Nat.toNat_digitChar_sub_48_of_lt_ten hlt
      rw [hc] at hn
      exact absurd hn (by simpa using Nat.ne_of_lt h)
    · obtain ⟨c, rest, hw⟩ := List.exists_cons_of_ne_nil (writeNat_ne_nil (n / 10))
      have hc := ih (n / 10) (by omega) (by omega)
      rw [hw] at hc
      rwa [writeNat_eq_append hge, hw]

theorem head_writeInt (n : Int) :
    ∃ c rest, writeInt n = c :: rest ∧ (c = '-' ∨ c.isDigit = true) := by
  rw [writeInt]
  split
  · exact ⟨'-', _, rfl, Or.inl rfl⟩
  · cases hw : writeNat n.natAbs with
    | nil => exact absurd hw (writeNat_ne_nil _)
    | cons c rest =>
      have hm : c ∈ writeNat n.natAbs := hw ▸ List.mem_cons_self
      exact ⟨c, rest, rfl, Or.inr (isDigit_of_mem_writeNat hm)⟩

theorem mem_writeInt {n : Int} {c : Char} (h : c ∈ writeInt n) : c = '-' ∨ c.isDigit = true := by
  rw [writeInt] at h
  split at h
  · rcases List.mem_cons.mp h with rfl | hm
    · exact Or.inl rfl
    · exact Or.inr (isDigit_of_mem_writeNat hm)
  · exact Or.inr (isDigit_of_mem_writeNat h)

theorem minus_cons_ne_writeNat (rest : List Char) (n : Nat) : '-' :: rest ≠ writeNat n := by
  intro h
  have hm : '-' ∈ writeNat n := h ▸ List.mem_cons_self
  exact absurd (isDigit_of_mem_writeNat hm) (by decide)

theorem natural?_writeNat (n : Nat) : natural? (writeNat n) = some n := by
  have hd : (writeNat n).all Char.isDigit = true :=
    List.all_eq_true.mpr fun _ => isDigit_of_mem_writeNat
  rw [natural?, if_pos ⟨writeNat_ne_nil n, hd⟩]
  exact congrArg some (ofDigitChars_writeNat n)

theorem integer?_of_isDigit {c : Char} (hc : c.isDigit = true) (rest : List Char) :
    integer? (c :: rest) = (natural? (c :: rest)).map Int.ofNat := by
  rw [integer?]
  · rintro digits heq
    obtain ⟨rfl, _⟩ := List.cons.inj heq
    cases hc
  · rintro digits heq
    obtain ⟨rfl, _⟩ := List.cons.inj heq
    cases hc

theorem integer?_writeInt (n : Int) : integer? (writeInt n) = some n := by
  rw [writeInt]
  split
  · rw [integer?, natural?_writeNat, Option.map_some, Option.some.injEq, Int.ofNat_eq_natCast]
    omega
  · obtain ⟨c, rest, hw⟩ := List.exists_cons_of_ne_nil (writeNat_ne_nil n.natAbs)
    have hc : c.isDigit = true := isDigit_of_mem_writeNat (hw ▸ List.mem_cons_self)
    rw [hw, integer?_of_isDigit hc, ← hw, natural?_writeNat, Option.map_some,
      Option.some.injEq, Int.ofNat_eq_natCast]
    omega

theorem writeInt_injective {m n : Int} (h : writeInt m = writeInt n) : m = n := by
  have hread := integer?_writeInt m
  rw [h, integer?_writeInt] at hread
  exact (Option.some.inj hread).symm

theorem toInt64?_toInt (i : Int64) : toInt64? i.toInt = some i := by
  have hlow := i.minValue_le_toInt
  have hhigh := i.toInt_le
  rw [toInt64?, if_pos ⟨hlow, hhigh⟩, Int64.ofInt_toInt]

theorem toInt_of_toInt64? {n : Int} {i : Int64} (h : toInt64? n = some i) : i.toInt = n := by
  rw [toInt64?] at h
  split at h
  · next hrange =>
    cases h
    rw [Int64.toInt_minValue, Int64.toInt_maxValue] at hrange
    exact Int64.toInt_ofInt_of_le hrange.1 (Int.lt_of_le_sub_one hrange.2)
  · cases h

end KeyPath.Text.Numeral
