import KeyPath.Proofs.Lookup.Symbols
import KeyPath.Proofs.Number.Text
import KeyPath.Proofs.Text.Joined
import KeyPath.Proofs.Text.Quoted
import KeyPath.Value.Inspect
/-!
# The inspect form tells values apart

Symbols and objects apart, a value is known from its inspect form as soon as a delimiter follows:
its first character tells a string, an array or a hash from the rest, quotes hide what is inside
them, and what is written without quotes and brackets contains no delimiter.
-/

namespace KeyPath

open Text

namespace Value

/-- Whether a value is neither a symbol nor has one among its keys. -/
def hasNoSymbol : Value → Bool
  | sym _ => false
  | hash entries => entries.all fun entry => !entry.1.isSymbol
  | _ => true

/-- Whether no symbol occurs in a value or among the keys inside it. -/
def symbolFree (value : Value) : Bool := value.everywhere hasNoSymbol

/-- Neither a symbol nor an object occurs in a value. -/
structure Legible (value : Value) : Prop where
  objectFree : value.objectFree = true
  symbolFree : value.symbolFree = true

namespace Legible

theorem item {items : List Value} (h : Legible (array items)) {item : Value} (hm : item ∈ items) :
    Legible item := by
  have hobject := h.objectFree
  have hsymbol := h.symbolFree
  rw [Value.objectFree, everywhere, Bool.and_eq_true] at hobject
  rw [Value.symbolFree, everywhere, Bool.and_eq_true] at hsymbol
  exact ⟨everywhere_of_mem_items hobject.2 hm, everywhere_of_mem_items hsymbol.2 hm⟩

theorem entry {entries : List (Key × Value)} (h : Legible (hash entries)) {entry : Key × Value}
    (hm : entry ∈ entries) : entry.1.isSymbol = false ∧ Legible entry.2 := by
  have hobject := h.objectFree
  have hsymbol := h.symbolFree
  rw [Value.objectFree, everywhere, Bool.and_eq_true] at hobject
  rw [Value.symbolFree, everywhere, Bool.and_eq_true] at hsymbol
  have hkey : (!entry.1.isSymbol) = true := List.all_eq_true.mp hsymbol.1 entry hm
  refine ⟨by simpa using hkey, ?_, ?_⟩
  · exact everywhereEntries_iff.mp hobject.2 entry hm
  · exact everywhereEntries_iff.mp hsymbol.2 entry hm

end Legible

private theorem isDelimiter_of_isNumeric {c : Char} (h : FloatFormat.isNumeric c = true) :
    isDelimiter c = false := by
  have hnone : [',', ']', '\x7d', '='].any FloatFormat.isNumeric = false := by decide
  rw [Bool.eq_false_iff]
  intro hd
  exact List.any_eq_false.mp hnone c (List.contains_iff_mem.mp hd) h

/-- The opening quote or bracket of a value that has one. -/
def opening? : Value → Option Char
  | str _ => some '"'
  | array _ => some '['
  | hash _ => some '\x7b'
  | _ => none

/-- A character if it is an opening quote or bracket. -/
def openingOf? (c : Char) : Option Char := if ['"', '[', '\x7b'].contains c then some c else none

private theorem openingOf?_of_isNumeric {c : Char} (h : FloatFormat.isNumeric c = true) :
    openingOf? c = none := by
  have hnone : ['"', '[', '\x7b'].any FloatFormat.isNumeric = false := by decide
  apply if_neg
  intro hd
  exact List.any_eq_false.mp hnone c (List.contains_iff_mem.mp hd) h

private theorem exists_write_inspect_eq_cons (x : Binary64) :
    ∃ c rest, FloatFormat.inspect.write x = c :: rest ∧
      (FloatFormat.isNumeric c = true ∨ c = 'N' ∨ c = 'i') := by
  cases x with
  | nan => exact ⟨'N', _, rfl, .inr (.inl rfl)⟩
  | infinite negative =>
    cases negative with
    | false => exact ⟨'i', _, rfl, .inr (.inr rfl)⟩
    | true => exact ⟨'-', _, rfl, .inl rfl⟩
  | finite negative m e hn =>
    obtain ⟨c, rest, hw, hc⟩ := FloatFormat.exists_write_finite_eq_cons .inspect negative hn
    rw [hw]
    cases negative with
    | false => exact ⟨c, rest, rfl, .inl (FloatFormat.isNumeric_of_isDigit hc)⟩
    | true => exact ⟨'-', c :: rest, rfl, .inl rfl⟩

private theorem exists_writeInt_eq_cons (n : Int) :
    ∃ c rest, Numeral.writeInt n = c :: rest ∧ FloatFormat.isNumeric c = true := by
  obtain ⟨c, rest, hw, _⟩ := Numeral.head_writeInt n
  exact ⟨c, rest, hw, FloatFormat.isNumeric_of_mem_writeInt (hw ▸ List.mem_cons_self)⟩

/-- The first character of a value is no delimiter and tells whether there is an opening quote or
bracket. -/
theorem exists_inspectChars_eq_cons (value : Value) :
    ∃ c rest, value.inspectChars = c :: rest ∧ isDelimiter c = false ∧
      openingOf? c = value.opening? := by
  cases value with
  | nil => exact ⟨'n', _, rfl, rfl, rfl⟩
  | bool b =>
    cases b with
    | false => exact ⟨'f', _, rfl, rfl, rfl⟩
    | true => exact ⟨'t', _, rfl, rfl, rfl⟩
  | int i =>
    obtain ⟨c, rest, hw, hc⟩ := exists_writeInt_eq_cons i.toInt
    refine ⟨c, rest, by rw [inspectChars, hw], isDelimiter_of_isNumeric hc, ?_⟩
    exact openingOf?_of_isNumeric hc
  | float x =>
    obtain ⟨c, rest, hw, hc⟩ := exists_write_inspect_eq_cons x
    refine ⟨c, rest, by rw [inspectChars, hw], ?_, ?_⟩
    · rcases hc with hc | rfl | rfl
      · exact isDelimiter_of_isNumeric hc
      · rfl
      · rfl
    · rcases hc with hc | rfl | rfl
      · exact openingOf?_of_isNumeric hc
      · rfl
      · rfl
  | str text => exact ⟨'"', _, rfl, rfl, rfl⟩
  | sym name => exact ⟨':', _, rfl, rfl, rfl⟩
  | array items => exact ⟨'[', _, rfl, rfl, rfl⟩
  | hash entries => exact ⟨'\x7b', _, rfl, rfl, rfl⟩
  | wrapped id content => exact ⟨'#', _, rfl, rfl, rfl⟩
  | custom object => exact ⟨'#', _, rfl, rfl, rfl⟩

private theorem opening?_eq_of_append {a b : Value} {rest more : List Char}
    (h : a.inspectChars ++ rest = b.inspectChars ++ more) : a.opening? = b.opening? := by
  obtain ⟨c, text, hw, _, hc⟩ := exists_inspectChars_eq_cons a
  obtain ⟨d, other, hw', _, hd⟩ := exists_inspectChars_eq_cons b
  rw [hw, hw'] at h
  rw [← hc, ← hd, (List.cons.inj h).1]

/-- Whether a value is written without quotes and brackets. -/
def isBare : Value → Bool
  | nil | bool _ | int _ | float _ => true
  | _ => false

private theorem Legible.isBare {value : Value} (h : Legible value) (ho : value.opening? = none) :
    value.isBare = true := by
  cases value with
  | sym name => cases h.symbolFree
  | wrapped id content =>
    have hobject := object?_of_objectFree h.objectFree
    cases hobject
  | custom object =>
    have hobject := object?_of_objectFree h.objectFree
    cases hobject
  | str | array | hash => cases ho
  | _ => rfl

private theorem isDelimiter_of_mem_bare {value : Value} (h : value.isBare = true) :
    ∀ c ∈ value.inspectChars, isDelimiter c = false := by
  have hword {text : List Char} (hw : text.any isDelimiter = false) :
      ∀ c ∈ text, isDelimiter c = false := fun c hc =>
    Bool.eq_false_iff.mpr (List.any_eq_false.mp hw c hc)
  cases value with
  | nil => exact hword rfl
  | bool b =>
    cases b with
    | false => exact hword rfl
    | true => exact hword rfl
  | int i => exact fun c hc => isDelimiter_of_isNumeric (FloatFormat.isNumeric_of_mem_writeInt hc)
  | float x =>
    rw [inspectChars]
    cases x with
    | nan => exact hword rfl
    | infinite negative =>
      cases negative with
      | false => exact hword rfl
      | true => exact hword rfl
    | finite negative m e hn =>
      intro c hc
      rw [FloatFormat.write_finite] at hc
      rcases List.mem_append.mp hc with hc | hc
      · cases negative with
        | false => cases hc
        | true =>
          rw [List.mem_singleton.mp hc]
          rfl
      · exact isDelimiter_of_isNumeric (FloatFormat.isNumeric_of_mem_magnitude hc)
  | _ => cases h

private theorem write_inspect_ne_writeInt (x : Binary64) (n : Int) :
    FloatFormat.inspect.write x ≠ Numeral.writeInt n := by
  have hne {c : Char} (hm : c ∈ FloatFormat.inspect.write x)
      (hc : ¬(c = '-' ∨ c.isDigit = true)) :
      FloatFormat.inspect.write x ≠ Numeral.writeInt n := by
    intro h
    rw [h] at hm
    exact hc (Numeral.mem_writeInt hm)
  -- A floating point number has a point or a letter, which no integer has.
  cases x with
  | nan => exact hne (c := 'N') List.mem_cons_self (by decide)
  | infinite negative =>
    cases negative with
    | false => exact hne (c := 'i') List.mem_cons_self (by decide)
    | true => exact hne (c := 'i') (List.mem_cons_of_mem _ List.mem_cons_self) (by decide)
  | finite negative m e hn =>
    obtain ⟨c, hm, hc⟩ := FloatFormat.exists_mem_magnitude .inspect m e
    have hwritten : c ∈ FloatFormat.inspect.write (.finite negative m e hn) := by
      rw [FloatFormat.write_finite]
      exact List.mem_append_right _ hm
    rcases hc with rfl | rfl
    · exact hne hwritten (by decide)
    · exact hne hwritten (by decide)

/-- A value that is written as a word. -/
def word? : Value → Option Value
  | nil => some nil
  | bool b => some (bool b)
  | _ => none

/-- The word that begins with a letter. -/
def wordOf? : Char → Option Value
  | 'n' => some nil
  | 't' => some (bool true)
  | 'f' => some (bool false)
  | _ => none

private theorem wordOf?_of_isNumeric {c : Char} (h : FloatFormat.isNumeric c = true) :
    wordOf? c = none := by
  unfold wordOf?
  split
  · cases h
  · cases h
  · cases h
  · rfl

private theorem exists_bare_eq_cons {value : Value} (h : value.isBare = true) :
    ∃ c rest, value.inspectChars = c :: rest ∧ wordOf? c = value.word? := by
  cases value with
  | nil => exact ⟨'n', _, rfl, rfl⟩
  | bool b =>
    cases b with
    | false => exact ⟨'f', _, rfl, rfl⟩
    | true => exact ⟨'t', _, rfl, rfl⟩
  | int i =>
    obtain ⟨c, rest, hw, hc⟩ := exists_writeInt_eq_cons i.toInt
    exact ⟨c, rest, by rw [inspectChars, hw], wordOf?_of_isNumeric hc⟩
  | float x =>
    obtain ⟨c, rest, hw, hc⟩ := exists_write_inspect_eq_cons x
    refine ⟨c, rest, by rw [inspectChars, hw], ?_⟩
    rcases hc with hc | rfl | rfl
    · exact wordOf?_of_isNumeric hc
    · rfl
    · rfl
  | _ => cases h

private theorem eq_of_word?_eq_some {value word : Value} (h : value.word? = some word) :
    value = word := by
  cases value with
  | nil => exact Option.some.inj h
  | bool b => exact Option.some.inj h
  | _ => cases h

private theorem bare_injective {a b : Value} (ha : a.isBare = true) (hb : b.isBare = true)
    (h : a.inspectChars = b.inspectChars) : a = b := by
  obtain ⟨c, rest, hw, hc⟩ := exists_bare_eq_cons ha
  obtain ⟨d, more, hw', hd⟩ := exists_bare_eq_cons hb
  have hwords : a.word? = b.word? := by
    rw [hw, hw'] at h
    rw [← hc, ← hd, (List.cons.inj h).1]
  cases hword : a.word? with
  | some word =>
    rw [eq_of_word?_eq_some hword, eq_of_word?_eq_some (hwords.symm.trans hword)]
  | none =>
    have hother := hwords.symm.trans hword
    cases a with
    | int i =>
      cases b with
      | int j => rw [Int64.toInt_inj.mp (Numeral.writeInt_injective h)]
      | float y => exact absurd h.symm (write_inspect_ne_writeInt y i.toInt)
      | nil | bool => cases hother
      | _ => cases hb
    | float x =>
      cases b with
      | int j => exact absurd h (write_inspect_ne_writeInt x j.toInt)
      | float y => rw [FloatFormat.write_inspect_injective h]
      | nil | bool => cases hother
      | _ => cases hb
    | nil | bool => cases hword
    | _ => cases ha

private theorem inspectItems_eq_joined (items : List Value) :
    inspectItems items = joined inspectChars items := by
  induction items with
  | nil => rw [inspectItems, joined]
  | cons item rest ih =>
    cases rest with
    | nil => rw [inspectItems, joined]
    | cons other rest => simp only [inspectItems, ih, joined]

/-- An entry of a hash with an arrow between key and value. -/
def inspectEntry (entry : Key × Value) : List Char :=
  entry.1.inspectChars ++ '=' :: '>' :: entry.2.inspectChars

private theorem inspectEntries_eq_joined (entries : List (Key × Value)) :
    inspectEntries entries = joined inspectEntry entries := by
  induction entries with
  | nil => rw [inspectEntries, joined]
  | cons entry rest ih =>
    cases rest with
    | nil => simp only [inspectEntries, joined, inspectEntry]
    | cons other rest => simp only [inspectEntries, ih, joined, inspectEntry]

private theorem tellsApart_of_leaf {a b : Value} (ha : Legible a) (hb : Legible b)
    (harray : ∀ items, a ≠ array items) (hhash : ∀ entries, a ≠ hash entries) :
    TellsApart inspectChars a b := by
  intro rest more hr hm h
  have hopening := opening?_eq_of_append h
  cases ho : a.opening? with
  | none =>
    have hbare := ha.isBare ho
    have hbare' := hb.isBare (hopening.symm.trans ho)
    obtain ⟨htext, hrest⟩ := eq_of_append_eq (isDelimiter_of_mem_bare hbare)
      (isDelimiter_of_mem_bare hbare') hr hm h
    exact ⟨bare_injective hbare hbare' htext, hrest⟩
  | some c =>
    cases a with
    | str text =>
      cases b with
      | str other =>
        obtain ⟨htext, hrest⟩ := Quoted.encode_append_inj h
        rw [String.toList_inj.mp htext]
        exact ⟨rfl, hrest⟩
      | _ => cases hopening
    | array items => exact absurd rfl (harray items)
    | hash entries => exact absurd rfl (hhash entries)
    | _ => cases ho

end Value

private theorem Key.inspectChars_ofKey (key : Key) :
    (Value.ofKey key).inspectChars = key.inspectChars := by
  cases key with
  | bool b => cases b <;> rfl
  | _ => rfl

theorem Key.ofKey_injective {key other : Key} (h : Value.ofKey key = Value.ofKey other) :
    key = other := by
  cases key <;> cases other <;> cases h <;> rfl

private theorem Key.legible_ofKey {key : Key} (h : key.isSymbol = false) :
    Value.Legible (Value.ofKey key) := by
  cases key with
  | sym name => cases h
  | _ => exact ⟨rfl, rfl⟩

theorem Key.tellsApart {key other : Key} (hk : key.isSymbol = false) (ho : other.isSymbol = false) :
    TellsApart inspectChars key other := by
  intro rest more hr hm h
  rw [← inspectChars_ofKey key, ← inspectChars_ofKey other] at h
  have harray : ∀ items, Value.ofKey key ≠ .array items := by cases key <;> nofun
  have hhash : ∀ entries, Value.ofKey key ≠ .hash entries := by cases key <;> nofun
  have htells := Value.tellsApart_of_leaf (legible_ofKey hk) (legible_ofKey ho) harray hhash
  obtain ⟨hkey, hrest⟩ := htells rest more hr hm h
  exact ⟨ofKey_injective hkey, hrest⟩

namespace Value

private theorem tellsApart_entry {entry other : Key × Value} (hk : entry.1.isSymbol = false)
    (ho : other.1.isSymbol = false) (hv : TellsApart inspectChars entry.2 other.2) :
    TellsApart inspectEntry entry other := by
  intro rest more hr hm h
  rw [inspectEntry, inspectEntry, List.append_assoc, List.append_assoc] at h
  obtain ⟨hkey, harrow⟩ := Key.tellsApart hk ho _ _ (delimited_cons rfl _) (delimited_cons rfl _) h
  obtain ⟨hvalue, hrest⟩ := hv rest more hr hm (List.cons.inj (List.cons.inj harrow).2).2
  exact ⟨Prod.ext hkey hvalue, hrest⟩

private theorem exists_inspectEntry_eq_cons (entry : Key × Value) :
    ∃ c text, inspectEntry entry = c :: text ∧ isDelimiter c = false := by
  obtain ⟨c, text, hw, hc, _⟩ := exists_inspectChars_eq_cons (ofKey entry.1)
  rw [Key.inspectChars_ofKey] at hw
  exact ⟨c, _, by rw [inspectEntry, hw, List.cons_append], hc⟩

/-- Values are told apart by their inspect form, whatever delimited text follows. -/
theorem tellsApart {a : Value} (ha : Legible a) :
    ∀ b, Legible b → TellsApart inspectChars a b := by
  induction a using Value.induction with
  | leaf a harray hhash => exact fun b hb => tellsApart_of_leaf ha hb harray hhash
  | array items ih =>
    intro b hb rest more hr hm h
    have hopening := opening?_eq_of_append h
    cases b with
    | array others =>
      have hstart (value : Value) : ∃ c text, value.inspectChars = c :: text ∧
          isDelimiter c = false := by
        obtain ⟨c, text, hw, hc, _⟩ := exists_inspectChars_eq_cons value
        exact ⟨c, text, hw, hc⟩
      have htells : ∀ x ∈ items, ∀ y ∈ others, TellsApart inspectChars x y := fun x hx y hy =>
        ih x hx (ha.item hx) y (hb.item hy)
      rw [inspectChars, inspectChars, inspectItems_eq_joined, inspectItems_eq_joined,
        List.append_assoc, List.append_assoc] at h
      obtain ⟨rfl, hrest⟩ := joined_append_inj rfl (by decide) hstart htells (List.cons.inj h).2
      exact ⟨rfl, hrest⟩
    | _ => cases hopening
  | hash entries ih =>
    intro b hb rest more hr hm h
    have hopening := opening?_eq_of_append h
    cases b with
    | hash others =>
      have htells : ∀ x ∈ entries, ∀ y ∈ others, TellsApart inspectEntry x y := by
        intro x hx y hy
        obtain ⟨hkx, hvx⟩ := ha.entry hx
        obtain ⟨hky, hvy⟩ := hb.entry hy
        exact tellsApart_entry hkx hky (ih x hx hvx y.2 hvy)
      rw [inspectChars, inspectChars, inspectEntries_eq_joined, inspectEntries_eq_joined,
        List.append_assoc, List.append_assoc] at h
      obtain ⟨rfl, hrest⟩ := joined_append_inj rfl (by decide) exists_inspectEntry_eq_cons htells
        (List.cons.inj h).2
      exact ⟨rfl, hrest⟩
    | _ => cases hopening

/-- Values without symbols and objects that have the same inspect form are the same. -/
theorem eq_of_inspect_eq {a b : Value} (ha : a.objectFree = true) (ha' : a.symbolFree = true)
    (hb : b.objectFree = true) (hb' : b.symbolFree = true) (h : a.inspect = b.inspect) : a = b := by
  have hend : Delimited [] := nofun
  rw [inspect, inspect, String.ofList_inj] at h
  exact (tellsApart ⟨ha, ha'⟩ b ⟨hb, hb'⟩ [] [] hend hend (congrArg (· ++ []) h)).1

/-- Delimiters inside strings and keys, and a negative zero. -/
theorem eq_of_inspect_eq_delimiters :
    let a := array [str "1, [", float (.zero true),
      hash [(.int 2, nil), (.str "a\"=>b", array [str "]"])]]
    let b := array [str "1, [", float (.zero true),
      ofEntries [(.str "a\"=>b", int 0), (.int 2, nil), (.str "a\"=>b", array [str "]"])]]
    a.objectFree = true ∧ a.symbolFree = true ∧ b.objectFree = true ∧ b.symbolFree = true ∧
      a.inspect = b.inspect ∧ a = b := by
  intro a b
  have ha : a.objectFree = true := by decide
  have ha' : a.symbolFree = true := by decide
  have hb : b.objectFree = true := by decide
  have hb' : b.symbolFree = true := by decide
  have h : a.inspect = b.inspect := by decide
  exact ⟨ha, ha', hb, hb', h, eq_of_inspect_eq ha ha' hb hb' h⟩

end Value

end KeyPath
