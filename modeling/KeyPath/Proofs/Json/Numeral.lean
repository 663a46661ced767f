import KeyPath.Json.Numeral
import KeyPath.Proofs.Text.Numeral
/-!
# Reading written integers

An integer of 64 bits, signed or not, is read as it is written, up to what cannot belong to a
number.
-/

namespace KeyPath.Json

open Text

/-- Whether a number ends in front of some text. -/
def endsNumber : List Char → Bool
  | [] => true
  | c :: _ => !(c.isDigit || c == '.' || c == 'e' || c == 'E')

/-- The integers of 64 bits, signed or not. -/
def IsExact (n : Int) : Prop := -(twoTo 63 : Int) ≤ n ∧ n < twoTo 64

instance (n : Int) : Decidable (IsExact n) := inferInstanceAs (Decidable (_ ∧ _))

variable {n : Nat} {rest : List Char}

private theorem not_isDigit_of_endsNumber {c : Char} (hr : endsNumber (c :: rest) = true) :
    c.isDigit = false := by
  simp only [endsNumber, Bool.not_eq_true', Bool.or_eq_false_iff] at hr
  exact hr.1.1.1

private theorem appendDigits_of_endsNumber (bound value : Nat) (hr : endsNumber rest = true) :
    appendDigits bound value rest = (value, 0, rest) := by
  cases rest with
  | nil => rfl
  | cons c rest =>
    rw [appendDigits, not_isDigit_of_endsNumber hr, if_neg (by simp)]

private theorem appendDigits_append {bound value : Nat} {digits : List Char}
    (hd : ∀ c ∈ digits, c.isDigit = true) (hb : Nat.ofDigitChars 10 digits value ≤ bound)
    (hr : endsNumber rest = true) :
    appendDigits bound value (digits ++ rest) =
      (Nat.ofDigitChars 10 digits value, digits.length, rest) := by
  induction digits generalizing value with
  | nil =>
    rw [List.nil_append, appendDigits_of_endsNumber bound value hr, Nat.ofDigitChars_nil]
    rfl
  | cons c digits ih =>
    rw [Nat.ofDigitChars_cons] at hb
    have hle : 10 * value + digitValue c ≤ bound :=
      Nat.le_trans (Numeral.le_ofDigitChars digits _) hb
    have hc : c.isDigit = true := hd c List.mem_cons_self
    have ht : appendDigits bound (10 * value + digitValue c) (digits ++ rest) =
        (Nat.ofDigitChars 10 digits (10 * value + (c.toNat - '0'.toNat)), digits.length, rest) :=
      ih (fun d hm => hd d (List.mem_cons_of_mem c hm)) hb
    rw [List.cons_append, appendDigits, if_pos ⟨hc, hle⟩, Nat.ofDigitChars_cons, ht]
    rfl

private theorem continueWith_of_endsNumber (negative : Bool) (significand : Nat)
    (hr : endsNumber rest = true) :
    readUnsigned.continueWith negative significand 0 rest =
      .ok (ofSignificand negative significand, rest) := by
  cases rest with
  | nil => rfl
  | cons c rest =>
    simp only [endsNumber, Bool.not_eq_true', Bool.or_eq_false_iff, beq_eq_false_iff_ne] at hr
    obtain ⟨⟨⟨_, hdot⟩, he⟩, hE⟩ := hr
    rw [readUnsigned.continueWith]
    · rfl
    · exact fun _ h => hdot (List.cons.inj h).1
    · exact fun _ h => he (List.cons.inj h).1
    · exact fun _ h => hE (List.cons.inj h).1

private theorem readUnsigned_zero (negative : Bool) (hr : endsNumber rest = true) :
    readUnsigned negative ('0' :: rest) = .ok (ofSignificand negative 0, rest) := by
  cases rest with
  | nil => rfl
  | cons c rest =>
    rw [readUnsigned, not_isDigit_of_endsNumber hr]
    exact continueWith_of_endsNumber negative 0 hr

private theorem readUnsigned_writeNat (negative : Bool) (h : n ≤ maxSignificand)
    (hr : endsNumber rest = true) :
    readUnsigned negative (Numeral.writeNat n ++ rest) =
      .ok (ofSignificand negative n, rest) := by
  rcases Nat.eq_zero_or_pos n with rfl | hpos
  · exact readUnsigned_zero negative hr
  · obtain ⟨c, digits, hw⟩ := List.exists_cons_of_ne_nil (Numeral.writeNat_ne_nil n)
    have hd : ∀ d ∈ Numeral.writeNat n, d.isDigit = true :=
      fun _ => Numeral.isDigit_of_mem_writeNat
    have hc : c.isDigit = true := hd c (hw ▸ List.mem_cons_self)
    have hzero : c ≠ '0' := by
      intro hc0
      have hhead := Numeral.head?_writeNat_ne_zero hpos
      rw [hw, hc0] at hhead
      exact hhead rfl
    have hle : Nat.ofDigitChars 10 (Numeral.writeNat n) 0 ≤ maxSignificand := by
      rwa [Numeral.ofDigitChars_writeNat]
    have happend := appendDigits_append hd hle hr
    rw [Numeral.ofDigitChars_writeNat, hw, List.cons_append] at happend
    rw [hw, List.cons_append, readUnsigned, hc, happend]
    · have hstop : rest.takeWhile Char.isDigit = [] ∧ rest.dropWhile Char.isDigit = rest := by
        cases rest with
        | nil => exact ⟨rfl, rfl⟩
        | cons d rest =>
          have hdigit := not_isDigit_of_endsNumber hr
          exact ⟨List.takeWhile_cons_of_neg (by simp [hdigit]),
            List.dropWhile_cons_of_neg (by simp [hdigit])⟩
      simp only [hstop.1, hstop.2]
      exact continueWith_of_endsNumber negative n hr
    · exact fun _ _ hc0 => absurd hc0 hzero

theorem readNumber_writeInt {n : Int} (h : IsExact n) (hr : endsNumber rest = true) :
    readNumber (Numeral.writeInt n ++ rest) = .ok (.integer n, rest) := by
  obtain ⟨hlow, hhigh⟩ := h
  have hpow : twoTo 64 = 2 * twoTo 63 := twoTo_succ 63
  rw [Numeral.writeInt]
  split
  · next hneg =>
    have hle : n.natAbs ≤ maxSignificand := by
      rw [maxSignificand]
      omega
    rw [List.cons_append, readNumber, readUnsigned_writeNat true hle hr, ofSignificand,
      if_neg (by simp), if_pos (by omega)]
    congr 3
    omega
  · next hpos =>
    have hle : n.natAbs ≤ maxSignificand := by
      rw [maxSignificand]
      omega
    obtain ⟨c, digits, hw⟩ := List.exists_cons_of_ne_nil (Numeral.writeNat_ne_nil n.natAbs)
    have hc : c ≠ '-' := by
      rintro rfl
      exact absurd hw.symm (Numeral.minus_cons_ne_writeNat _ _)
    rw [readNumber, readUnsigned_writeNat false hle hr, ofSignificand, Bool.not_false, if_pos rfl]
    · congr 3
      omega
    · intro more hm
      rw [hw] at hm
      exact hc (List.cons.inj hm).1

end KeyPath.Json
