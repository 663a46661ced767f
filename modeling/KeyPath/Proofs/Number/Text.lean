import KeyPath.Number.Text
import KeyPath.Proofs.Number.Shortest
import KeyPath.Proofs.Text.Joined
import KeyPath.Proofs.Text.Numeral
/-!
# Written floating point numbers

A written decimal is read as the number that it denotes, in either notation. As the decimal rounds
to the number that is written, different finite numbers are written differently.
-/

namespace KeyPath

open Text

/-- The number that digits with a point among them denote. -/
def readMantissa (text : List Char) : ℚ :=
  let whole := text.takeWhile (· != '.')
  let fraction := text.drop (whole.length + 1)
  Nat.ofDigitChars 10 (whole ++ fraction) 0 / 10 ^ fraction.length

/-- The number that a text in positional notation or with an exponent denotes. -/
def readDecimal (text : List Char) : ℚ :=
  let mantissa := text.takeWhile (· != 'e')
  readMantissa mantissa * 10 ^ ((Numeral.integer? (text.drop (mantissa.length + 1))).getD 0)

private theorem readMantissa_point {whole fraction : List Char} (h : '.' ∉ whole) :
    readMantissa (whole ++ '.' :: fraction) =
      Nat.ofDigitChars 10 (whole ++ fraction) 0 / 10 ^ fraction.length := by
  rw [readMantissa]
  simp only [takeWhile_ne_append h, drop_length_succ]

private theorem readMantissa_whole {whole : List Char} (h : '.' ∉ whole) :
    readMantissa whole = Nat.ofDigitChars 10 whole 0 := by
  rw [readMantissa]
  simp [takeWhile_ne_self h, drop_length_succ_self]

private theorem readDecimal_exponent {mantissa exponent : List Char} {n : Int} (h : 'e' ∉ mantissa)
    (hn : Numeral.integer? exponent = some n) :
    readDecimal (mantissa ++ 'e' :: exponent) = readMantissa mantissa * 10 ^ n := by
  rw [readDecimal]
  simp only [takeWhile_ne_append h, drop_length_succ, hn, Option.getD_some]

private theorem readDecimal_positional {mantissa : List Char} (h : 'e' ∉ mantissa) :
    readDecimal mantissa = readMantissa mantissa := by
  have hnone : Numeral.integer? [] = none := rfl
  rw [readDecimal]
  simp [takeWhile_ne_self h, drop_length_succ_self, hnone]

namespace FloatFormat

variable {digits : List Char}

private theorem not_mem_of_isDigit {c : Char} (hd : ∀ d ∈ digits, d.isDigit = true)
    (hc : c.isDigit = false) : c ∉ digits := by
  intro hm
  rw [hd c hm] at hc
  cases hc

private theorem readMantissa_positional (hd : ∀ d ∈ digits, d.isDigit = true) (exponent : Int) :
    readMantissa (positional digits exponent) = Nat.ofDigitChars 10 digits 0 * 10 ^ exponent := by
  have hpoint : '.' ∉ digits := not_mem_of_isDigit hd rfl
  rw [positional]
  split
  · next hpos =>
    obtain ⟨n, rfl⟩ := Int.eq_ofNat_of_zero_le hpos
    have hzeros : '.' ∉ digits ++ List.replicate n '0' := by
      simp [hpoint]
    rw [Int.toNat_natCast, readMantissa_point hzeros, Nat.ofDigitChars_append,
      Nat.ofDigitChars_append, Nat.ofDigitChars_replicate_zero, zpow_natCast]
    have hone : Nat.ofDigitChars 10 ['0'] (10 ^ n * Nat.ofDigitChars 10 digits 0) =
        10 * (10 ^ n * Nat.ofDigitChars 10 digits 0) := by
      simp [Nat.ofDigitChars_cons]
    rw [hone]
    push_cast
    simp
    ring
  · next hneg =>
    obtain ⟨n, hn⟩ := Int.exists_eq_neg_ofNat (not_le.mp hneg).le
    subst hn
    simp only [neg_neg, Int.toNat_natCast, zpow_neg, zpow_natCast]
    split
    · next hshort =>
      have hzero : '.' ∉ ['0'] := by decide
      have htext : '0' :: '.' :: List.replicate (n - digits.length) '0' ++ digits =
          ['0'] ++ '.' :: (List.replicate (n - digits.length) '0' ++ digits) := rfl
      have hlength : (List.replicate (n - digits.length) '0' ++ digits).length = n := by
        simp
        omega
      have hvalue :
          Nat.ofDigitChars 10 (['0'] ++ (List.replicate (n - digits.length) '0' ++ digits)) 0 =
            Nat.ofDigitChars 10 digits 0 := by
        rw [Nat.ofDigitChars_append, Nat.ofDigitChars_append, Nat.ofDigitChars_replicate_zero]
        simp [Nat.ofDigitChars_cons]
      rw [htext, readMantissa_point hzero, hlength, hvalue, div_eq_mul_inv]
    · next hlong =>
      have hwhole : '.' ∉ digits.take (digits.length - n) := fun hm =>
        hpoint (List.mem_of_mem_take hm)
      have hlength : (digits.drop (digits.length - n)).length = n := by
        rw [List.length_drop]
        omega
      rw [readMantissa_point hwhole, List.take_append_drop, hlength, div_eq_mul_inv]

private theorem mem_positional {exponent : Int} {c : Char} (h : c ∈ positional digits exponent) :
    c ∈ digits ∨ c = '0' ∨ c = '.' := by
  rw [positional] at h
  split at h
  · simp only [List.mem_append, List.mem_replicate, List.mem_cons, List.not_mem_nil, or_false] at h
    rcases h with (h | ⟨_, h⟩) | h | h
    · exact .inl h
    · exact .inr (.inl h)
    · exact .inr (.inr h)
    · exact .inr (.inl h)
  · dsimp only at h
    split at h
    · simp only [List.mem_append, List.mem_replicate, List.mem_cons] at h
      rcases h with (h | h | ⟨_, h⟩) | h
      · exact .inr (.inl h)
      · exact .inr (.inr h)
      · exact .inr (.inl h)
      · exact .inl h
    · simp only [List.mem_append, List.mem_cons] at h
      rcases h with h | h | h
      · exact .inl (List.mem_of_mem_take h)
      · exact .inr (.inr h)
      · exact .inl (List.mem_of_mem_drop h)

private theorem not_mem_positional (hd : ∀ d ∈ digits, d.isDigit = true) (exponent : Int) :
    'e' ∉ positional digits exponent := by
  intro h
  rcases mem_positional h with hm | he | he
  · exact absurd hm (not_mem_of_isDigit hd rfl)
  · cases he
  · cases he

private theorem integer?_signed (signs : Bool) (n : Int) :
    Numeral.integer? ((if signs ∧ 0 ≤ n then ['+'] else []) ++ Numeral.writeInt n) = some n := by
  split
  · next h =>
    obtain ⟨k, rfl⟩ := Int.eq_ofNat_of_zero_le h.2
    have hnat : Numeral.writeInt (k : Int) = Numeral.writeNat k := by
      rw [Numeral.writeInt, if_neg (by omega), Int.natAbs_natCast]
    rw [hnat, List.singleton_append, Numeral.integer?, Numeral.natural?_writeNat]
    rfl
  · exact Numeral.integer?_writeInt n

/-- The digits before the exponent, with a point behind the first of several. -/
def mantissa : List Char → List Char
  | [] => []
  | [d] => [d]
  | d :: rest => d :: '.' :: rest

private theorem scientific_eq (signs : Bool) (digits : List Char) (leading : Int) :
    scientific signs digits leading =
      mantissa digits ++ 'e' ::
        ((if signs ∧ 0 ≤ leading then ['+'] else []) ++ Numeral.writeInt leading) := by
  cases digits with
  | nil => rfl
  | cons d rest =>
    cases rest with
    | nil => rfl
    | cons d' rest => simp [scientific, mantissa]

private theorem readMantissa_mantissa (hd : ∀ d ∈ digits, d.isDigit = true) (hne : digits ≠ []) :
    readMantissa (mantissa digits) =
      Nat.ofDigitChars 10 digits 0 / 10 ^ (digits.length - 1) := by
  cases digits with
  | nil => exact absurd rfl hne
  | cons d rest =>
    have hfirst : '.' ∉ [d] := by
      have hdigit := hd d List.mem_cons_self
      simp only [List.mem_singleton]
      rintro rfl
      cases hdigit
    cases rest with
    | nil =>
      rw [mantissa, readMantissa_whole hfirst]
      simp
    | cons d' rest =>
      have htext : mantissa (d :: d' :: rest) = [d] ++ '.' :: d' :: rest := rfl
      have hlength : (d :: d' :: rest).length - 1 = (d' :: rest).length := rfl
      rw [htext, readMantissa_point hfirst, List.singleton_append, hlength]

private theorem not_mem_mantissa (hd : ∀ d ∈ digits, d.isDigit = true) : 'e' ∉ mantissa digits := by
  have hdigits : 'e' ∉ digits := not_mem_of_isDigit hd rfl
  cases digits with
  | nil => exact hdigits
  | cons d rest =>
    cases rest with
    | nil => exact hdigits
    | cons d' rest =>
      simp only [mantissa, List.mem_cons, not_or] at hdigits ⊢
      exact ⟨hdigits.1, by decide, hdigits.2⟩

private theorem readDecimal_scientific (signs : Bool) (hd : ∀ d ∈ digits, d.isDigit = true)
    (hne : digits ≠ []) (exponent : Int) :
    readDecimal (scientific signs digits (exponent + digits.length - 1)) =
      Nat.ofDigitChars 10 digits 0 * 10 ^ exponent := by
  have hlength : 1 ≤ digits.length := List.length_pos_iff.mpr hne
  have hleading : exponent + digits.length - 1 = exponent + ((digits.length - 1 : Nat) : Int) := by
    omega
  rw [scientific_eq, readDecimal_exponent (not_mem_mantissa hd) (integer?_signed signs _),
    readMantissa_mantissa hd hne, hleading, zpow_add₀ (by norm_num), zpow_natCast]
  field_simp

theorem readDecimal_writeDecimal (format : FloatFormat) (x : Decimal) :
    readDecimal (format.writeDecimal x) = x.value := by
  have hd : ∀ d ∈ Numeral.writeNat x.coefficient, d.isDigit = true :=
    fun _ => Numeral.isDigit_of_mem_writeNat
  have hvalue := Numeral.ofDigitChars_writeNat x.coefficient
  rw [writeDecimal, Decimal.value]
  split
  · rw [readDecimal_positional (not_mem_positional hd _), readMantissa_positional hd, hvalue]
  · rw [readDecimal_scientific _ hd (Numeral.writeNat_ne_nil _), hvalue]

private theorem exists_writeDecimal_eq_cons (format : FloatFormat) (x : Decimal) :
    ∃ c rest, format.writeDecimal x = c :: rest ∧ c.isDigit = true := by
  obtain ⟨d, digits, hw⟩ := List.exists_cons_of_ne_nil (Numeral.writeNat_ne_nil x.coefficient)
  have hd : d.isDigit = true := Numeral.isDigit_of_mem_writeNat (hw ▸ List.mem_cons_self)
  rw [writeDecimal, hw]
  split
  · rw [positional]
    split
    · exact ⟨d, _, rfl, hd⟩
    · dsimp only
      split
      · exact ⟨'0', _, rfl, rfl⟩
      · next hlong =>
        obtain ⟨k, hk⟩ : ∃ k, (d :: digits).length - (-x.exponent).toNat = k + 1 :=
          ⟨_, (Nat.succ_pred_eq_of_pos (by omega)).symm⟩
        rw [hk, List.take_succ_cons]
        exact ⟨d, _, rfl, hd⟩
  · rw [scientific_eq]
    cases digits with
    | nil => exact ⟨d, _, rfl, hd⟩
    | cons d' rest => exact ⟨d, _, rfl, hd⟩

/-- A number without its sign. -/
def magnitude (format : FloatFormat) (significand : Nat) (exponent : Int) : List Char :=
  if significand = 0 then ['0', '.', '0']
  else format.writeDecimal (Decimal.shortest format.tie significand exponent)

theorem write_finite (format : FloatFormat) (negative : Bool) (m : Nat) (e : Int)
    (h : IsNormalForm m e) :
    format.write (.finite negative m e h) =
      (if negative then ['-'] else []) ++ format.magnitude m e := by
  rw [write, magnitude]
  split
  · rfl
  · rfl

private theorem exists_magnitude_eq_cons (format : FloatFormat) (m : Nat) (e : Int) :
    ∃ c rest, format.magnitude m e = c :: rest ∧ c.isDigit = true := by
  rw [magnitude]
  split
  · exact ⟨'0', _, rfl, rfl⟩
  · exact exists_writeDecimal_eq_cons format _

variable {format : FloatFormat} {m m' : Nat} {e e' : Int}

private theorem readDecimal_magnitude_pos (format : FloatFormat) (hn : IsNormalForm m e)
    (hm : 0 < m) :
    RoundsTo m e (readDecimal (format.magnitude m e)) := by
  rw [magnitude, if_neg hm.ne', readDecimal_writeDecimal]
  exact Decimal.roundsTo_shortest format.tie hn hm

private theorem readDecimal_magnitude_zero : readDecimal (format.magnitude 0 e) = 0 := by
  have hzero : format.magnitude 0 e = ['0'] ++ '.' :: ['0'] := rfl
  have hletter : 'e' ∉ ['0'] ++ '.' :: ['0'] := by decide
  have hpoint : '.' ∉ ['0'] := by decide
  rw [hzero, readDecimal_positional hletter, readMantissa_point hpoint]
  simp [Nat.ofDigitChars_cons]

private theorem exponent_of_zero (hn : IsNormalForm 0 e) : e = -1074 := by
  rcases hn.2.2.2 with hfull | hleast
  · exact absurd hfull (by decide)
  · exact hleast

private theorem magnitude_ne (hn : IsNormalForm m e) (hm : 0 < m) :
    format.magnitude 0 e' ≠ format.magnitude m e := by
  intro h
  have hrounds := readDecimal_magnitude_pos format hn hm
  rw [← h, readDecimal_magnitude_zero] at hrounds
  exact absurd (lowEnd_pos hm) (not_lt.mpr hrounds.bounds.1)

theorem magnitude_injective (hn : IsNormalForm m e) (hn' : IsNormalForm m' e')
    (h : format.magnitude m e = format.magnitude m' e') : m = m' ∧ e = e' := by
  rcases Nat.eq_zero_or_pos m with rfl | hm
  · rcases Nat.eq_zero_or_pos m' with rfl | hm'
    · exact ⟨rfl, (exponent_of_zero hn).trans (exponent_of_zero hn').symm⟩
    · exact absurd h (magnitude_ne hn' hm')
  · rcases Nat.eq_zero_or_pos m' with rfl | hm'
    · exact absurd h.symm (magnitude_ne hn hm)
    · have hrounds := readDecimal_magnitude_pos format hn hm
      rw [h] at hrounds
      exact hrounds.unique hn hn' (readDecimal_magnitude_pos format hn' hm')

private theorem minus_cons_ne_magnitude (rest : List Char) :
    '-' :: rest ≠ format.magnitude m e := by
  obtain ⟨c, digits, hw, hc⟩ := exists_magnitude_eq_cons format m e
  rw [hw]
  intro h
  rw [← (List.cons.inj h).1] at hc
  cases hc

theorem write_finite_injective {negative negative' : Bool} {hn : IsNormalForm m e}
    {hn' : IsNormalForm m' e'}
    (h : format.write (.finite negative m e hn) = format.write (.finite negative' m' e' hn')) :
    Binary64.finite negative m e hn = .finite negative' m' e' hn' := by
  rw [write_finite, write_finite] at h
  cases negative with
  | false =>
    cases negative' with
    | false =>
      obtain ⟨rfl, rfl⟩ := magnitude_injective hn hn' h
      rfl
    | true => exact absurd h.symm (minus_cons_ne_magnitude _)
  | true =>
    cases negative' with
    | false => exact absurd h (minus_cons_ne_magnitude _)
    | true =>
      obtain ⟨rfl, rfl⟩ := magnitude_injective hn hn' (List.cons.inj h).2
      rfl

/-- The characters of a written decimal. -/
def isNumeric (c : Char) : Bool := c.isDigit || ['.', 'e', '-', '+'].contains c

theorem isNumeric_of_isDigit {c : Char} (h : c.isDigit = true) : isNumeric c = true := by
  rw [isNumeric, h, Bool.true_or]

private theorem point_mem_positional (digits : List Char) (exponent : Int) :
    '.' ∈ positional digits exponent := by
  rw [positional]
  split
  · simp
  · dsimp only
    split
    · simp
    · simp

theorem isNumeric_of_mem_writeInt {n : Int} {c : Char} (h : c ∈ Numeral.writeInt n) :
    isNumeric c = true := by
  rcases Numeral.mem_writeInt h with rfl | hd
  · rfl
  · exact isNumeric_of_isDigit hd

private theorem mem_mantissa {c : Char} (h : c ∈ mantissa digits) : c ∈ digits ∨ c = '.' := by
  match digits with
  | [] => exact .inl h
  | [d] => exact .inl h
  | d :: d' :: rest =>
    rcases List.mem_cons.mp h with rfl | hrest
    · exact .inl List.mem_cons_self
    · rcases List.mem_cons.mp hrest with rfl | hm
      · exact .inr rfl
      · exact .inl (List.mem_cons_of_mem _ hm)

private theorem isNumeric_of_mem_writeDecimal {format : FloatFormat} {x : Decimal} {c : Char}
    (h : c ∈ format.writeDecimal x) : isNumeric c = true := by
  have hdigit (hm : c ∈ Numeral.writeNat x.coefficient) : isNumeric c = true :=
    isNumeric_of_isDigit (Numeral.isDigit_of_mem_writeNat hm)
  rw [writeDecimal] at h
  split at h
  · rcases mem_positional h with hm | rfl | rfl
    · exact hdigit hm
    · rfl
    · rfl
  · rw [scientific_eq] at h
    rcases List.mem_append.mp h with hm | hm
    · rcases mem_mantissa hm with hm | rfl
      · exact hdigit hm
      · rfl
    · rcases List.mem_cons.mp hm with rfl | hm
      · rfl
      · rcases List.mem_append.mp hm with hm | hm
        · split at hm
          · rw [List.mem_singleton.mp hm]
            rfl
          · cases hm
        · exact isNumeric_of_mem_writeInt hm

private theorem exists_mem_writeDecimal (format : FloatFormat) (x : Decimal) :
    ∃ c ∈ format.writeDecimal x, c = '.' ∨ c = 'e' := by
  rw [writeDecimal]
  split
  · exact ⟨'.', point_mem_positional _ _, .inl rfl⟩
  · refine ⟨'e', ?_, .inr rfl⟩
    rw [scientific_eq]
    simp

theorem isNumeric_of_mem_magnitude {c : Char} (h : c ∈ format.magnitude m e) :
    isNumeric c = true := by
  rw [magnitude] at h
  split at h
  · have hzero : ['0', '.', '0'].all isNumeric = true := by decide
    exact List.all_eq_true.mp hzero c h
  · exact isNumeric_of_mem_writeDecimal h

theorem exists_mem_magnitude (format : FloatFormat) (m : Nat) (e : Int) :
    ∃ c ∈ format.magnitude m e, c = '.' ∨ c = 'e' := by
  rw [magnitude]
  split
  · exact ⟨'.', by decide, .inl rfl⟩
  · exact exists_mem_writeDecimal format _

theorem exists_write_finite_eq_cons (format : FloatFormat) (negative : Bool)
    (hn : IsNormalForm m e) :
    ∃ c rest,
      format.write (.finite negative m e hn) = (if negative then ['-'] else []) ++ c :: rest ∧
        c.isDigit = true := by
  obtain ⟨c, rest, hw, hc⟩ := exists_magnitude_eq_cons format m e
  exact ⟨c, rest, by rw [write_finite, hw], hc⟩

private theorem write_finite_ne_write_of_isFinite {negative : Bool} {hn : IsNormalForm m e}
    {y : Binary64}
    (hy : y.isFinite = false) : inspect.write (.finite negative m e hn) ≠ inspect.write y := by
  obtain ⟨c, rest, hw, hc⟩ := exists_write_finite_eq_cons inspect negative hn
  rw [hw]
  intro h
  have hne (d : Char) (hd : d.isDigit = false) : c ≠ d := by
    rintro rfl
    rw [hc] at hd
    cases hd
  cases y with
  | finite => cases hy
  | nan =>
    cases negative with
    | false => exact hne 'N' rfl (List.cons.inj h).1
    | true => cases (List.cons.inj h).1
  | infinite sign =>
    cases negative with
    | false =>
      cases sign with
      | false => exact hne 'i' rfl (List.cons.inj h).1
      | true => exact hne '-' rfl (List.cons.inj h).1
    | true =>
      cases sign with
      | false => cases (List.cons.inj h).1
      | true => exact hne 'i' rfl (List.cons.inj (List.cons.inj h).2).1

/-- The inspect form tells a number; there is one number that is none. -/
theorem write_inspect_injective {x y : Binary64} (h : inspect.write x = inspect.write y) :
    x = y := by
  cases x with
  | finite negative m e hn =>
    cases y with
    | finite negative' m' e' hn' => exact write_finite_injective h
    | _ => exact absurd h (write_finite_ne_write_of_isFinite rfl)
  | nan =>
    cases y with
    | finite => exact absurd h.symm (write_finite_ne_write_of_isFinite rfl)
    | nan => rfl
    | infinite sign =>
      cases sign with
      | false => cases h
      | true => cases h
  | infinite sign =>
    cases y with
    | finite => exact absurd h.symm (write_finite_ne_write_of_isFinite rfl)
    | nan =>
      cases sign with
      | false => cases h
      | true => cases h
    | infinite sign' =>
      cases sign with
      | false =>
        cases sign' with
        | false => rfl
        | true => cases h
      | true =>
        cases sign' with
        | false => cases h
        | true => rfl

end FloatFormat

end KeyPath
