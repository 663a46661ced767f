import KeyPath.Key.Text
import KeyPath.Proofs.Text.Digits
/-!
# Keys as they can be typed

Every key but the symbol without a name can be typed: a string between quotes, whatever it holds,
and any other key in its written form.
-/

namespace KeyPath.Key

open Text

/-- A text that denotes a key. -/
def typed : Key → String
  | str text => String.ofList ('"' :: (text.toList ++ ['"']))
  | key => key.inspect

private theorem unquote?_quoted (text : List Char) :
    unquote? ('"' :: (text ++ ['"'])) = some text := by
  rw [unquote?, if_pos List.getLast?_concat, List.dropLast_concat]

theorem unquote?_eq_some_iff {text inside : List Char} :
    unquote? text = some inside ↔ text = '"' :: (inside ++ ['"']) := by
  constructor
  · intro h
    unfold unquote? at h
    split at h
    · obtain ⟨hlast, hinside⟩ := Option.ite_none_right_eq_some.mp h
      obtain ⟨before, rfl⟩ := List.getLast?_eq_some_iff.mp hlast
      rw [← Option.some.inj hinside, List.dropLast_concat]
    · cases h
  · rintro rfl
    exact unquote?_quoted inside

private theorem ofChars_cons {c : Char} (hn : c ≠ 'n') (ht : c ≠ 't') (hf : c ≠ 'f') (hs : c ≠ ':')
    (rest : List Char) :
    ofChars (c :: rest) =
      match unquote? (c :: rest) with
      | some inner => str (String.ofList inner)
      | none =>
        match (Numeral.integer? (c :: rest)).bind Numeral.toInt64? with
        | some i => int i
        | none => str (String.ofList (c :: rest)) := by
  unfold ofChars
  split
  · next heq => exact absurd (List.cons.inj heq).1 hn
  · next heq => exact absurd (List.cons.inj heq).1 ht
  · next heq => exact absurd (List.cons.inj heq).1 hf
  · next heq => exact absurd (List.cons.inj heq).1 hs
  · rfl

theorem ofChars_quoted (text : List Char) :
    ofChars ('"' :: (text ++ ['"'])) = str (String.ofList text) := by
  rw [ofChars_cons (by decide) (by decide) (by decide) (by decide), unquote?_quoted]

theorem ofChars_numeral {text : List Char} {i : Int64} (h : Numeral.Denotes text i.toInt) :
    ofChars text = int i := by
  have hread := Numeral.integer?_eq_some_iff.mpr h
  obtain ⟨c, rest, rfl, hc⟩ := h.exists_cons
  have hne : ∀ d : Char, d ≠ '+' → d ≠ '-' → d.isDigit = false → c ≠ d := by
    rintro d hplus hminus hd rfl
    rcases hc with rfl | rfl | hc
    · exact hplus rfl
    · exact hminus rfl
    · exact absurd hc (by simp [hd])
  have hunquote : unquote? (c :: rest) = none := by
    rw [unquote?]
    intro more heq
    exact hne '"' (by decide) (by decide) rfl (List.cons.inj heq).1
  rw [ofChars_cons (hne 'n' (by decide) (by decide) rfl) (hne 't' (by decide) (by decide) rfl)
    (hne 'f' (by decide) (by decide) rfl) (hne ':' (by decide) (by decide) rfl), hunquote, hread]
  simp only [Option.bind_some, Numeral.toInt64?_toInt]

private theorem ofChars_writeInt (i : Int64) : ofChars (Numeral.writeInt i.toInt) = int i :=
  ofChars_numeral (Numeral.integer?_eq_some_iff.mp (Numeral.integer?_writeInt i.toInt))

theorem ofChars_colon {name : String} (h : name ≠ "") :
    ofChars (':' :: name.toList) = sym name := by
  cases hn : name.toList with
  | nil => exact absurd (String.toList_eq_nil_iff.mp hn) h
  | cons c rest =>
    rw [ofChars, ← hn, String.ofList_toList]

theorem parse_typed {key : Key} (h : key ≠ sym "") : parse key.typed = key := by
  cases key with
  | nil => rfl
  | bool b => cases b <;> rfl
  | int i =>
    rw [typed, inspect, parse, String.toList_ofList]
    · exact ofChars_writeInt i
    · simp
  | str text =>
    rw [typed, parse, String.toList_ofList, ofChars_quoted, String.ofList_toList]
  | sym name =>
    have hname : name ≠ "" := fun hn => h (congrArg sym hn)
    rw [typed, inspect, parse, String.toList_ofList]
    · exact ofChars_colon hname
    · simp

theorem parse_ne_empty_symbol (text : String) : parse text ≠ sym "" := by
  intro h
  unfold parse ofChars at h
  split at h
  · cases h
  · cases h
  · cases h
  · have hname := Key.sym.inj h
    simp at hname
  · split at h
    · cases h
    · split at h <;> cases h

/-- The keys that can be typed. -/
theorem exists_parse_eq_iff {key : Key} : (∃ text, parse text = key) ↔ key ≠ sym "" := by
  constructor
  · rintro ⟨text, rfl⟩
    exact parse_ne_empty_symbol text
  · intro h
    exact ⟨key.typed, parse_typed h⟩

end KeyPath.Key
