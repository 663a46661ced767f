import KeyPath.Proofs.Text.Joined
import KeyPath.Text.Hex
import KeyPath.Text.Quoted
/-!
# Quoted text is read back

The written form of a character tells where it ends and which character it is, and none begins
with a quote. So the first quote that is not part of a written character closes a quoted text, and
whatever follows, the text is known by then. Read without unescaping, a quoted text is what it was
only if nothing in it is escaped.
-/

namespace KeyPath.Text

private theorem hexDigit?_digitChar : ∀ n < 16, hexDigit? (Nat.digitChar n) = some n := by
  decide

private theorem hexNumber?_append_singleton (digits : List Char) (c : Char) :
    hexNumber? (digits ++ [c]) =
      (hexNumber? digits).bind fun value => (hexDigit? c).map (16 * value + ·) := by
  rw [hexNumber?, List.foldlM_append, hexNumber?]
  simp

theorem hexNumber?_toDigits (n : Nat) : hexNumber? (Nat.toDigits 16 n) = some n := by
  induction n using Nat.strongRecOn with
  | ind n ih =>
    rcases Nat.lt_or_ge n 16 with hlt | hge
    · rw [Nat.toDigits_of_lt_base hlt]
      have hdigit := hexDigit?_digitChar n hlt
      simp [hexNumber?, hdigit]
    · rw [Nat.toDigits_of_base_le (by decide) hge, hexNumber?_append_singleton,
        ih (n / 16) (by omega), Option.bind_some,
        hexDigit?_digitChar (n % 16) (Nat.mod_lt n (by decide)), Option.map_some]
      exact congrArg some (Nat.div_add_mod n 16)

private theorem exists_of_mem_toDigits {n : Nat} {c : Char} (h : c ∈ Nat.toDigits 16 n) :
    ∃ k < 16, c = Nat.digitChar k := by
  induction n using Nat.strongRecOn with
  | ind n ih =>
    rcases Nat.lt_or_ge n 16 with hlt | hge
    · rw [Nat.toDigits_of_lt_base hlt, List.mem_singleton] at h
      exact ⟨n, hlt, h⟩
    · rw [Nat.toDigits_of_base_le (by decide) hge, List.mem_append, List.mem_singleton] at h
      rcases h with h | h
      · exact ih (n / 16) (by omega) h
      · exact ⟨n % 16, Nat.mod_lt n (by decide), h⟩

namespace Quoted

/-- The character that a letter behind a backslash stands for. -/
def unescape : Char → Char
  | '0' => '\x00'
  | 't' => '\t'
  | 'n' => '\n'
  | 'r' => '\r'
  | c => c

/-- Read one written character, and tell what follows it. -/
def readCharacter? : List Char → Option (Char × List Char)
  | '\\' :: 'u' :: '\x7b' :: rest =>
    let digits := rest.takeWhile (· != '\x7d')
    (hexNumber? digits).map fun n => (Char.ofNat n, rest.drop (digits.length + 1))
  | '\\' :: c :: rest => some (unescape c, rest)
  | c :: rest => some (c, rest)
  | [] => none

private theorem readCharacter?_hexadecimal (c : Char) (rest : List Char) :
    readCharacter? ('\\' :: 'u' :: '\x7b' :: (Nat.toDigits 16 c.toNat ++ '\x7d' :: rest)) =
      some (c, rest) := by
  have hbrace : ∀ k < 16, Nat.digitChar k ≠ '\x7d' := by decide
  have hdigits : '\x7d' ∉ Nat.toDigits 16 c.toNat := by
    intro hm
    obtain ⟨k, hk, hd⟩ := exists_of_mem_toDigits hm
    exact hbrace k hk hd.symm
  rw [readCharacter?]
  simp only [takeWhile_ne_append hdigits, drop_length_succ, hexNumber?_toDigits, Option.map_some,
    Char.ofNat_toNat]

private theorem readCharacter?_escape (c : Char) (rest : List Char) :
    readCharacter? (escape c ++ rest) = some (c, rest) := by
  unfold escape
  split
  · rfl
  · rfl
  · rfl
  · rfl
  · rfl
  · rfl
  · next hbackslash =>
    split
    · rw [List.singleton_append, readCharacter?]
      · exact fun _ h _ => hbackslash h
      · exact fun _ _ h _ => hbackslash h
    · rw [List.append_assoc, List.append_assoc]
      exact readCharacter?_hexadecimal c rest

private theorem escape_append_inj {c d : Char} {rest more : List Char}
    (h : escape c ++ rest = escape d ++ more) : c = d ∧ rest = more := by
  have hread := readCharacter?_escape c rest
  rw [h, readCharacter?_escape, Option.some.injEq, Prod.mk.injEq] at hread
  exact ⟨hread.1.symm, hread.2.symm⟩

private theorem escape_append_ne (c : Char) (rest more : List Char) :
    escape c ++ rest ≠ '"' :: more := by
  unfold escape
  split
  · nofun
  · nofun
  · nofun
  · nofun
  · nofun
  · nofun
  · next hquote _ =>
    split
    · intro h
      exact hquote (List.cons.inj h).1
    · nofun

private theorem flatMap_escape_append_inj {text other rest more : List Char}
    (h : text.flatMap escape ++ '"' :: rest = other.flatMap escape ++ '"' :: more) :
    text = other ∧ rest = more := by
  induction text generalizing other with
  | nil =>
    cases other with
    | nil => exact ⟨rfl, (List.cons.inj h).2⟩
    | cons d other =>
      rw [List.flatMap_cons, List.append_assoc] at h
      exact absurd h.symm (escape_append_ne d _ _)
  | cons c text ih =>
    rw [List.flatMap_cons, List.append_assoc] at h
    cases other with
    | nil => exact absurd h (escape_append_ne c _ _)
    | cons d other =>
      rw [List.flatMap_cons, List.append_assoc] at h
      obtain ⟨rfl, hrest⟩ := escape_append_inj h
      obtain ⟨rfl, hmore⟩ := ih hrest
      exact ⟨rfl, hmore⟩

/-- Two quoted texts with anything behind them are told apart. -/
theorem encode_append_inj {text other rest more : List Char}
    (h : encode text ++ rest = encode other ++ more) : text = other ∧ rest = more := by
  rw [encode, encode, List.append_assoc, List.append_assoc] at h
  exact flatMap_escape_append_inj (List.cons.inj h).2

/-- Whether a character is written with a backslash: quotes, backslashes and all that is
unprintable, blanks other than the space included. -/
def isEscaped (c : Char) : Bool := c == '"' || c == '\\' || !isPrintable c

private theorem escape_of_isEscaped_eq_false {c : Char} (h : isEscaped c = false) :
    escape c = [c] := by
  unfold escape
  split
  · exact absurd h (by decide)
  · exact absurd h (by decide)
  · exact absurd h (by decide)
  · exact absurd h (by decide)
  · exact absurd h (by decide)
  · exact absurd h (by decide)
  · rw [isEscaped, Bool.or_eq_false_iff, Bool.not_eq_false'] at h
    exact if_pos h.2

private theorem two_le_length_escape {c : Char} (h : isEscaped c = true) :
    2 ≤ (escape c).length := by
  unfold escape
  split
  · exact Nat.le_refl 2
  · exact Nat.le_refl 2
  · exact Nat.le_refl 2
  · exact Nat.le_refl 2
  · exact Nat.le_refl 2
  · exact Nat.le_refl 2
  · next hquote hbackslash =>
    rw [isEscaped, beq_eq_false_iff_ne.mpr hquote, beq_eq_false_iff_ne.mpr hbackslash,
      Bool.false_or, Bool.false_or, Bool.not_eq_true'] at h
    rw [h]
    simp

private theorem length_le_length_flatMap_escape (text : List Char) :
    text.length ≤ (text.flatMap escape).length := by
  induction text with
  | nil => exact Nat.le_refl 0
  | cons c text ih =>
    have hc : 1 ≤ (escape c).length := by
      cases he : isEscaped c with
      | false => rw [escape_of_isEscaped_eq_false he, List.length_singleton]
      | true => exact Nat.le_of_succ_le (two_le_length_escape he)
    rw [List.flatMap_cons, List.length_append, List.length_cons]
    omega

theorem flatMap_escape_eq_self_iff {text : List Char} :
    text.flatMap escape = text ↔ ∀ c ∈ text, isEscaped c = false := by
  induction text with
  | nil => simp
  | cons c text ih =>
    rw [List.flatMap_cons, List.forall_mem_cons, ← ih]
    cases he : isEscaped c with
    | false => simp [escape_of_isEscaped_eq_false he]
    | true =>
      simp only [Bool.true_eq_false, false_and, iff_false]
      intro h
      -- Escaping makes a text longer unless it changes nothing.
      have hc := two_le_length_escape he
      have htext := length_le_length_flatMap_escape text
      have hlength := congrArg List.length h
      rw [List.length_append, List.length_cons] at hlength
      omega

end Quoted

end KeyPath.Text
