/-!
# Texts and their bytes

A text is read back from its bytes, and a part of it is cut out between two positions among them, if
both lie between characters. Texts are compared by their characters, and the bytes of UTF-8 compare
the same way: where two texts first differ, the character with the greater code point has the
greater bytes.
-/

namespace KeyPath.Text

/-- The bytes of a text in UTF-8. -/
def utf8 (text : String) : List UInt8 := text.toUTF8.data.toList

private theorem utf8_eq_flatMap (text : String) :
    utf8 text = text.toList.flatMap String.utf8EncodeChar := by
  rw [utf8, String.toUTF8_eq_toByteArray, ← String.utf8Encode_toList, List.utf8Encode]
  simp

theorem fromUTF8?_toUTF8 (text : String) : String.fromUTF8? text.toUTF8 = some text :=
  dif_pos text.isValidUTF8

/-- The part of a text between two positions among its bytes. There is none if the positions are out
of order, or if one of them lies past the end or inside a character. -/
def slice? (text : String) (start stop : Nat) : Option String :=
  if h : start ≤ stop ∧ String.Pos.Raw.IsValid text ⟨start⟩ ∧
      String.Pos.Raw.IsValid text ⟨stop⟩ then
    some (text.extract (text.pos ⟨start⟩ h.2.1) (text.pos ⟨stop⟩ h.2.2))
  else none

theorem slice?_append (before inside after : String) :
    slice? (before ++ inside ++ after) before.utf8ByteSize
      (before.utf8ByteSize + inside.utf8ByteSize) = some inside := by
  have hstart : String.Pos.Raw.IsValid (before ++ inside ++ after) ⟨before.utf8ByteSize⟩ :=
    String.Pos.Raw.isValid_iff_exists_append.mpr
      ⟨before, inside ++ after, String.append_assoc, rfl⟩
  have hstop : String.Pos.Raw.IsValid (before ++ inside ++ after)
      ⟨before.utf8ByteSize + inside.utf8ByteSize⟩ := by
    refine String.Pos.Raw.isValid_iff_exists_append.mpr ⟨before ++ inside, after, rfl, ?_⟩
    rw [String.rawEndPos, String.utf8ByteSize_append]
  rw [slice?, dif_pos ⟨Nat.le_add_right _ _, hstart, hstop⟩, Option.some.injEq,
    ← String.toByteArray_inj, String.toByteArray_extract, String.offset_pos, String.offset_pos,
    String.toByteArray_append, ByteArray.extract_append, String.toByteArray_append,
    ByteArray.extract_append_eq_right String.size_toByteArray.symm
      (by rw [String.size_toByteArray, String.size_toByteArray])]
  simp

section

variable {a b m n : Nat} {x y : List UInt8}

private theorem bytes_lt (hb : b < 256) (h : a < b ∨ a = b ∧ x < y) :
    UInt8.ofNat a :: x < UInt8.ofNat b :: y := by
  rw [List.cons_lt_cons_iff]
  rcases h with h | ⟨rfl, h⟩
  · refine Or.inl ?_
    rw [UInt8.lt_iff_toNat_lt, UInt8.toNat_ofNat', UInt8.toNat_ofNat']
    omega
  · exact Or.inr ⟨rfl, h⟩

private theorem low_byte_lt (h : m % 64 < n % 64) :
    UInt8.ofNat (m % 64 + 128) :: x < UInt8.ofNat (n % 64 + 128) :: y :=
  bytes_lt (by omega) (Or.inl (by omega))

private theorem two_low_bytes_lt (h : m % 4096 < n % 4096) :
    UInt8.ofNat (m / 64 % 64 + 128) :: UInt8.ofNat (m % 64 + 128) :: x <
      UInt8.ofNat (n / 64 % 64 + 128) :: UInt8.ofNat (n % 64 + 128) :: y := by
  refine bytes_lt (by omega) ?_
  by_cases he : m / 64 % 64 = n / 64 % 64
  · exact Or.inr ⟨by omega, low_byte_lt (by omega)⟩
  · exact Or.inl (by omega)

private theorem three_low_bytes_lt (h : m % 262144 < n % 262144) :
    UInt8.ofNat (m / 4096 % 64 + 128) :: UInt8.ofNat (m / 64 % 64 + 128) ::
        UInt8.ofNat (m % 64 + 128) :: x <
      UInt8.ofNat (n / 4096 % 64 + 128) :: UInt8.ofNat (n / 64 % 64 + 128) ::
        UInt8.ofNat (n % 64 + 128) :: y := by
  refine bytes_lt (by omega) ?_
  by_cases he : m / 4096 % 64 = n / 4096 % 64
  · exact Or.inr ⟨by omega, two_low_bytes_lt (by omega)⟩
  · exact Or.inl (by omega)

end

private theorem utf8EncodeChar_lt {c d : Char} (h : c < d) (x y : List UInt8) :
    String.utf8EncodeChar c ++ x < String.utf8EncodeChar d ++ y := by
  have hcd : c.val.toNat < d.val.toNat := h
  have hd : d.val.toNat < 0x110000 := by
    have := d.valid
    simp only [UInt32.isValidChar, Nat.isValidChar] at this
    omega
  simp only [String.utf8EncodeChar]
  generalize c.val.toNat = m at hcd
  generalize d.val.toNat = n at hcd hd
  -- a longer encoding begins with a greater byte
  split
  · split
    · exact bytes_lt (by omega) (Or.inl hcd)
    · split
      · exact bytes_lt (by omega) (Or.inl (by omega))
      · split <;> exact bytes_lt (by omega) (Or.inl (by omega))
  · rw [if_neg (by omega : ¬ n ≤ 0x7f)]
    split
    · split
      · refine bytes_lt (by omega) ?_
        by_cases he : m / 64 % 32 = n / 64 % 32
        · exact Or.inr ⟨by omega, low_byte_lt (by omega)⟩
        · exact Or.inl (by omega)
      · split <;> exact bytes_lt (by omega) (Or.inl (by omega))
    · rw [if_neg (by omega : ¬ n ≤ 0x7ff)]
      split
      · split
        · refine bytes_lt (by omega) ?_
          by_cases he : m / 4096 % 16 = n / 4096 % 16
          · exact Or.inr ⟨by omega, two_low_bytes_lt (by omega)⟩
          · exact Or.inl (by omega)
        · exact bytes_lt (by omega) (Or.inl (by omega))
      · rw [if_neg (by omega : ¬ n ≤ 0xffff)]
        refine bytes_lt (by omega) ?_
        by_cases he : m / 262144 % 8 = n / 262144 % 8
        · exact Or.inr ⟨by omega, three_low_bytes_lt (by omega)⟩
        · exact Or.inl (by omega)

private theorem flatMap_utf8EncodeChar_lt {a b : List Char} (h : a < b) :
    a.flatMap String.utf8EncodeChar < b.flatMap String.utf8EncodeChar := by
  induction a generalizing b with
  | nil =>
    cases b with
    | nil => cases h
    | cons d rest =>
      rw [List.flatMap_nil, List.flatMap_cons]
      cases hd : String.utf8EncodeChar d with
      | nil => exact absurd hd String.utf8EncodeChar_ne_nil
      | cons byte bytes => exact List.nil_lt_cons _ _
  | cons c rest ih =>
    cases b with
    | nil => cases h
    | cons d rest' =>
      rw [List.flatMap_cons, List.flatMap_cons]
      rcases List.cons_lt_cons_iff.mp h with hc | ⟨rfl, hrest⟩
      · exact utf8EncodeChar_lt hc _ _
      · exact List.append_left_lt (ih hrest)

/-- Texts ascend as their bytes do. -/
theorem utf8_lt {a b : String} (h : compare a b = .lt) : utf8 a < utf8 b := by
  have hlt : a < b := compareOfLessAndEq_eq_lt.mp h
  rw [utf8_eq_flatMap, utf8_eq_flatMap]
  exact flatMap_utf8EncodeChar_lt hlt

end KeyPath.Text
