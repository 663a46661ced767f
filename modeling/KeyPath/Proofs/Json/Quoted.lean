import KeyPath.Json.Printer
import KeyPath.Json.Reader
/-!
# Reading written strings

Each character of a string is escaped by itself, and its written form is read back as that
character whatever follows.
-/

namespace KeyPath.Json

private theorem hexGroup?_digitChar :
    ∀ n < 32, hexGroup? '0' '0' (Nat.digitChar (n / 16)) (Nat.digitChar (n % 16)) = some n := by
  decide

private theorem isSurrogate_of_lt {n : Nat} (h : n < 0x20) :
    isLowSurrogate n = false ∧ isHighSurrogate n = false := by
  simp only [isLowSurrogate, isHighSurrogate, Bool.and_eq_false_iff, decide_eq_false_iff_not]
  omega

private theorem readString_controlCharacter {c : Char} (h : c.toNat < 0x20) (rest : List Char) :
    readString ('\\' :: 'u' :: '0' :: '0' :: Nat.digitChar (c.toNat / 16) ::
      Nat.digitChar (c.toNat % 16) :: rest) = consChar c (readString rest) := by
  obtain ⟨hlow, hhigh⟩ := isSurrogate_of_lt h
  rw [readString, hexGroup?_digitChar c.toNat h]
  simp [hlow, hhigh]

private theorem readString_plain {c : Char} (hquote : c ≠ '"') (hbackslash : c ≠ '\\')
    (h : ¬c.toNat < 0x20) (rest : List Char) :
    readString (c :: rest) = consChar c (readString rest) := by
  rw [readString]
  · exact if_neg h
  · exact hquote
  · exact fun _ _ _ _ _ hc _ => hbackslash hc
  · exact fun _ hc _ => hbackslash hc
  · exact fun hc _ => hbackslash hc
  · exact fun _ _ hc _ => hbackslash hc

private theorem readString_escape (c : Char) (rest : List Char) :
    readString (escape c ++ rest) = consChar c (readString rest) := by
  unfold escape
  split
  · rfl
  · rfl
  · rfl
  · rfl
  · rfl
  · rfl
  · rfl
  · next hquote hbackslash _ _ _ _ _ =>
    split
    · next h => exact readString_controlCharacter h rest
    · next h => exact readString_plain hquote hbackslash h rest

theorem readString_flatMap_escape (text rest : List Char) :
    readString (text.flatMap escape ++ '"' :: rest) = .ok (text, rest) := by
  induction text with
  | nil => rfl
  | cons c text ih =>
    rw [List.flatMap_cons, List.append_assoc, readString_escape, ih]
    rfl

end KeyPath.Json
