import KeyPath.Proofs.Text.Numeral
import Mathlib.Data.List.Induction
import Mathlib.Data.Nat.Digits.Defs
/-!
# Numerals and the words they denote

A numeral is one or more decimal digits behind an optional sign, and each digit counts by its place.
Reading gives the integer that a numeral denotes, and nothing for any other text. A word of 64 bits
is accumulated digit by digit, and no step leaves the range of words unless the integer does.
-/

namespace KeyPath.Text.Numeral

/-- One or more decimal digits. -/
def IsDigits (digits : List Char) : Prop := digits ≠ [] ∧ digits.all Char.isDigit

/-- The sum of digits, each times the power of ten of its place. -/
def placeValue (digits : List Char) : Nat :=
  Nat.ofDigits 10 (digits.reverse.map fun d => d.toNat - '0'.toNat)

/-- Digits behind an optional sign, and the integer that they denote. -/
inductive Denotes : List Char → Int → Prop
  | unsigned {digits : List Char} : IsDigits digits → Denotes digits (placeValue digits)
  | plus {digits : List Char} : IsDigits digits → Denotes ('+' :: digits) (placeValue digits)
  | minus {digits : List Char} : IsDigits digits → Denotes ('-' :: digits) (-placeValue digits)

private theorem placeValue_append_singleton (digits : List Char) (d : Char) :
    placeValue (digits ++ [d]) = 10 * placeValue digits + (d.toNat - '0'.toNat) := by
  rw [placeValue, List.reverse_append, List.reverse_singleton, List.singleton_append, List.map_cons,
    Nat.ofDigits_cons, Nat.add_comm]
  rfl

private theorem ofDigits_eq_placeValue (digits : List Char) :
    ofDigits digits = placeValue digits := by
  induction digits using List.reverseRecOn with
  | nil => rfl
  | append_singleton digits d ih =>
    rw [placeValue_append_singleton, ← ih, ofDigits, List.foldl_append]
    rfl

theorem natural?_eq_some_iff {digits : List Char} {n : Nat} :
    natural? digits = some n ↔ IsDigits digits ∧ placeValue digits = n := by
  rw [natural?, ofDigits_eq_placeValue, Option.ite_none_right_eq_some, Option.some.injEq, IsDigits]

theorem IsDigits.exists_cons {digits : List Char} (h : IsDigits digits) :
    ∃ d rest, digits = d :: rest ∧ d.isDigit = true := by
  obtain ⟨d, rest, rfl⟩ := List.exists_cons_of_ne_nil h.1
  exact ⟨d, rest, rfl, List.all_eq_true.mp h.2 d List.mem_cons_self⟩

theorem Denotes.exists_cons {text : List Char} {n : Int} (h : Denotes text n) :
    ∃ c rest, text = c :: rest ∧ (c = '+' ∨ c = '-' ∨ c.isDigit = true) := by
  cases h with
  | unsigned hdigits =>
    obtain ⟨d, rest, hd, hdigit⟩ := hdigits.exists_cons
    exact ⟨d, rest, hd, .inr (.inr hdigit)⟩
  | plus => exact ⟨'+', _, rfl, .inl rfl⟩
  | minus => exact ⟨'-', _, rfl, .inr (.inl rfl)⟩

/-- Exactly the numerals are read, each as what it denotes. -/
theorem integer?_eq_some_iff {text : List Char} {n : Int} :
    integer? text = some n ↔ Denotes text n := by
  constructor
  · intro h
    unfold integer? at h
    split at h
    all_goals
      obtain ⟨m, hm, rfl⟩ := Option.map_eq_some_iff.mp h
      obtain ⟨hdigits, rfl⟩ := natural?_eq_some_iff.mp hm
    · exact .plus hdigits
    · exact .minus hdigits
    · exact .unsigned hdigits
  · intro h
    cases h with
    | unsigned hdigits =>
      obtain ⟨d, rest, rfl, hd⟩ := hdigits.exists_cons
      rw [integer?_of_isDigit hd, natural?_eq_some_iff.mpr ⟨hdigits, rfl⟩]
      rfl
    | plus hdigits =>
      rw [integer?, natural?_eq_some_iff.mpr ⟨hdigits, rfl⟩]
      rfl
    | minus hdigits =>
      rw [integer?, natural?_eq_some_iff.mpr ⟨hdigits, rfl⟩]
      rfl

theorem Denotes.unique {text : List Char} {m n : Int} (hm : Denotes text m) (hn : Denotes text n) :
    m = n := by
  rw [← integer?_eq_some_iff] at hm hn
  exact Option.some.inj (hm.symm.trans hn)

/-- An integer at a distance from zero, on one side of it. -/
def signed (negative : Bool) (n : Nat) : Int := if negative then -n else n

/-- Whether a minus sign is in front, and the text behind a sign. -/
def splitSign : List Char → Bool × List Char
  | '+' :: digits => (false, digits)
  | '-' :: digits => (true, digits)
  | digits => (false, digits)

/-- One more digit behind a word, away from zero. Product and sum must be words as well. -/
def push? (negative : Bool) (value : Int64) (d : Char) : Option Int64 :=
  if d.isDigit then
    (toInt64? (10 * value.toInt)).bind fun tens =>
      toInt64? (tens.toInt + signed negative (d.toNat - '0'.toNat))
  else none

/-- Digits accumulated in words, unless there are none or a step leaves the range of words. -/
def accumulate? (negative : Bool) (digits : List Char) : Option Int64 :=
  if digits = [] then none else digits.foldlM (push? negative) 0

/-- The word that a numeral denotes, computed in words. -/
def word? (text : List Char) : Option Int64 :=
  accumulate? (splitSign text).1 (splitSign text).2

variable {negative : Bool} {value : Int64} {m n : Nat} {d : Char}

private theorem signed_add (negative : Bool) (m n : Nat) :
    signed negative (m + n) = signed negative m + signed negative n := by
  cases negative with
  | false => exact Int.natCast_add m n
  | true => exact (congrArg Neg.neg (Int.natCast_add m n)).trans Int.neg_add

private theorem signed_mul (negative : Bool) (m n : Nat) :
    signed negative (m * n) = m * signed negative n := by
  cases negative with
  | false => exact Int.natCast_mul m n
  | true => exact (congrArg Neg.neg (Int.natCast_mul m n)).trans (Int.mul_neg _ _).symm

theorem integer?_eq (text : List Char) :
    integer? text = (natural? (splitSign text).2).map (signed (splitSign text).1) := by
  unfold integer?
  split
  · rfl
  · rfl
  · next hplus hminus =>
    rw [splitSign]
    · rfl
    · exact hplus
    · exact hminus

private theorem toInt64?_eq_none_iff {n : Int} :
    toInt64? n = none ↔ n < Int64.minValue.toInt ∨ Int64.maxValue.toInt < n := by
  simp only [toInt64?, ite_eq_right_iff, reduceCtorEq, imp_false]
  omega

private theorem toInt64?_signed_eq_none (hmn : m ≤ n) (h : toInt64? (signed negative m) = none) :
    toInt64? (signed negative n) = none := by
  have hmin : Int64.minValue.toInt < 0 := by decide
  have hmax : 0 < Int64.maxValue.toInt := by decide
  rw [toInt64?_eq_none_iff] at h ⊢
  cases negative with
  | false =>
    simp only [signed, Bool.false_eq_true, if_false] at h ⊢
    omega
  | true =>
    simp only [signed, if_true] at h ⊢
    omega

private theorem push?_eq (h : value.toInt = signed negative n) (hd : d.isDigit = true) :
    push? negative value d = toInt64? (signed negative (10 * n + (d.toNat - '0'.toNat))) := by
  have htens : 10 * value.toInt = signed negative (10 * n) := by
    rw [h, signed_mul]
    rfl
  rw [push?, if_pos hd, htens]
  cases ht : toInt64? (signed negative (10 * n)) with
  | none => exact (toInt64?_signed_eq_none (Nat.le_add_right _ _) ht).symm
  | some tens => rw [Option.bind_some, toInt_of_toInt64? ht, signed_add]

/-- A run keeps the word at the integer of the digits read so far. It ends early only if the integer
of all of them is no word. -/
private theorem foldlM_push?_eq (digits : List Char) (h : value.toInt = signed negative n) :
    digits.foldlM (push? negative) value =
      if digits.all Char.isDigit then toInt64? (signed negative (Nat.ofDigitChars 10 digits n))
      else none := by
  induction digits generalizing value n with
  | nil =>
    rw [List.foldlM_nil, List.all_nil, if_pos rfl, Nat.ofDigitChars_nil, ← h, toInt64?_toInt]
    rfl
  | cons d digits ih =>
    rw [List.foldlM_cons, List.all_cons, Nat.ofDigitChars_cons]
    cases hd : d.isDigit with
    | false =>
      rw [push?, hd]
      rfl
    | true =>
      rw [push?_eq h hd, Bool.true_and]
      cases hp : toInt64? (signed negative (10 * n + (d.toNat - '0'.toNat))) with
      | none =>
        rw [toInt64?_signed_eq_none (le_ofDigitChars digits _) hp, ite_self]
        rfl
      | some next => exact ih (toInt_of_toInt64? hp)

theorem accumulate?_eq (negative : Bool) (digits : List Char) :
    accumulate? negative digits = (natural? digits).bind fun n => toInt64? (signed negative n) := by
  have hzero : (0 : Int64).toInt = signed negative 0 := by
    cases negative with
    | false => rfl
    | true => rfl
  rw [accumulate?, natural?, foldlM_push?_eq digits hzero]
  by_cases hne : digits = []
  · rw [if_pos hne, if_neg (fun h => h.1 hne)]
    rfl
  · rw [if_neg hne]
    by_cases hd : digits.all Char.isDigit = true
    · rw [if_pos hd, if_pos ⟨hne, hd⟩]
      rfl
    · rw [if_neg hd, if_neg (fun h => hd h.2)]
      rfl

/-- Words are enough to read a numeral. -/
theorem word?_eq (text : List Char) : word? text = (integer? text).bind toInt64? := by
  rw [word?, accumulate?_eq, integer?_eq, Option.bind_map]
  rfl

theorem word?_eq_some_iff {text : List Char} {i : Int64} :
    word? text = some i ↔ Denotes text i.toInt := by
  rw [word?_eq, Option.bind_eq_some_iff, ← integer?_eq_some_iff]
  constructor
  · rintro ⟨n, hn, hi⟩
    rwa [toInt_of_toInt64? hi]
  · intro h
    exact ⟨_, h, toInt64?_toInt i⟩

end KeyPath.Text.Numeral
