import KeyPath.Proofs.Value.Inspect
import Mathlib.Data.List.Infix
/-!
# A written path tells its keys

Quotes hide what is inside a string, and the other keys but symbols contain no comma. A symbol is
written as it stands, so it is known up to the first comma with a space behind it. Hence a written
path is taken apart as it was put together, unless the name of a symbol in it contains both.
-/

namespace KeyPath

namespace Text

/-- A text that is empty or begins with a comma and a space. -/
inductive Separated : List Char → Prop where
  | nil : Separated []
  | cons (text : List Char) : Separated (',' :: ' ' :: text)

private theorem Separated.delimited {text : List Char} (h : Separated text) : Delimited text := by
  cases h with
  | nil => nofun
  | cons text => exact delimited_cons rfl _

private theorem separated_joinedTail {α : Type} (write : α → List Char) (rest : List α) :
    Separated (joinedTail write rest) := by
  cases rest with
  | nil => exact .nil
  | cons x rest => exact .cons _

variable {name other rest more : List Char}

private theorem Separated.ne_cons_append {c : Char} (hr : Separated rest) (hm : Separated more)
    (hn : ¬[',', ' '] <:+: c :: name) : rest ≠ c :: (name ++ more) := by
  intro h
  cases hr with
  | nil => cases h
  | cons text =>
    obtain ⟨rfl, htext⟩ := List.cons.inj h
    cases name with
    | nil =>
      rw [List.nil_append] at htext
      rw [← htext] at hm
      cases hm
    | cons d name =>
      obtain ⟨rfl, _⟩ := List.cons.inj htext
      exact hn ⟨[], name, rfl⟩

/-- Texts without a comma and a space in a row are told apart by the first ones behind them. A
comma at the end of a text does no harm, as another comma follows. -/
private theorem eq_of_append_eq_of_separated (hn : ¬[',', ' '] <:+: name)
    (ho : ¬[',', ' '] <:+: other)
    (hr : Separated rest) (hm : Separated more) (h : name ++ rest = other ++ more) :
    name = other ∧ rest = more := by
  induction name generalizing other with
  | nil =>
    cases other with
    | nil => exact ⟨rfl, h⟩
    | cons d other => exact absurd h (hr.ne_cons_append hm ho)
  | cons c name ih =>
    cases other with
    | nil => exact absurd h.symm (hm.ne_cons_append hr hn)
    | cons d other =>
      obtain ⟨rfl, htail⟩ := List.cons.inj h
      have hn' : ¬[',', ' '] <:+: name := fun hi => hn (List.infix_cons hi)
      have ho' : ¬[',', ' '] <:+: other := fun hi => ho (List.infix_cons hi)
      obtain ⟨rfl, hrest⟩ := ih hn' ho' htail
      exact ⟨rfl, hrest⟩

end Text

namespace Key

open Text

variable {key other : Key}

theorem exists_inspectChars_eq_cons (key : Key) :
    ∃ c text, key.inspectChars = c :: text ∧ (c == ':') = key.isSymbol := by
  cases key with
  | nil => exact ⟨'n', _, rfl, rfl⟩
  | bool b =>
    cases b with
    | false => exact ⟨'f', _, rfl, rfl⟩
    | true => exact ⟨'t', _, rfl, rfl⟩
  | int i =>
    obtain ⟨c, text, hw, hc⟩ := Numeral.head_writeInt i.toInt
    refine ⟨c, text, hw, beq_eq_false_iff_ne.mpr ?_⟩
    rintro rfl
    rcases hc with hc | hc <;> cases hc
  | str text => exact ⟨'"', _, rfl, rfl⟩
  | sym name => exact ⟨':', _, rfl, rfl⟩

private theorem inspectChars_ne_nil (key : Key) : key.inspectChars ≠ [] := by
  obtain ⟨c, text, hw, _⟩ := exists_inspectChars_eq_cons key
  rw [hw]
  exact List.cons_ne_nil c text

private theorem isSymbol_eq_of_append {rest more : List Char}
    (h : key.inspectChars ++ rest = other.inspectChars ++ more) :
    key.isSymbol = other.isSymbol := by
  obtain ⟨c, text, hw, hc⟩ := exists_inspectChars_eq_cons key
  obtain ⟨d, text', hw', hd⟩ := exists_inspectChars_eq_cons other
  rw [hw, hw'] at h
  rw [← hc, ← hd, (List.cons.inj h).1]

private theorem exists_eq_sym_of_isSymbol (h : key.isSymbol = true) : ∃ name, key = sym name := by
  cases key with
  | sym name => exact ⟨name, rfl⟩
  | _ => cases h

/-- Keys of any kind are told apart, as long as no name breaks off early. -/
private theorem eq_of_append_eq_of_separated
    (hk : ∀ name, key = sym name → ¬[',', ' '] <:+: name.toList)
    (ho : ∀ name, other = sym name → ¬[',', ' '] <:+: name.toList) {rest more : List Char}
    (hr : Separated rest) (hm : Separated more)
    (h : key.inspectChars ++ rest = other.inspectChars ++ more) : key = other ∧ rest = more := by
  have hsymbol := isSymbol_eq_of_append h
  cases hs : key.isSymbol with
  | false => exact tellsApart hs (hsymbol.symm.trans hs) rest more hr.delimited hm.delimited h
  | true =>
    obtain ⟨name, rfl⟩ := exists_eq_sym_of_isSymbol hs
    obtain ⟨name', rfl⟩ := exists_eq_sym_of_isSymbol (hsymbol.symm.trans hs)
    obtain ⟨hname, hrest⟩ := Text.eq_of_append_eq_of_separated (hk name rfl) (ho name' rfl) hr hm
      (List.cons.inj h).2
    exact ⟨congrArg sym (String.toList_inj.mp hname), hrest⟩

theorem inspectChars_injective (h : key.inspectChars = other.inspectChars) : key = other := by
  have hsymbol := isSymbol_eq_of_append (congrArg (· ++ []) h)
  cases hs : key.isSymbol with
  | false => exact (tellsApart hs (hsymbol.symm.trans hs)).eq_of_eq h
  | true =>
    obtain ⟨name, rfl⟩ := exists_eq_sym_of_isSymbol hs
    obtain ⟨name', rfl⟩ := exists_eq_sym_of_isSymbol (hsymbol.symm.trans hs)
    exact congrArg sym (String.toList_inj.mp (List.cons.inj h).2)

private theorem pathChars_eq_joined (keys : List Key) :
    pathChars keys = joined inspectChars keys := by
  induction keys with
  | nil => rfl
  | cons key rest ih =>
    cases rest with
    | nil => rfl
    | cons other rest => simp only [pathChars, joined, ih]

private theorem pathChars_cons_ne_nil (key : Key) (rest : List Key) :
    pathChars (key :: rest) ≠ [] := by
  rw [pathChars_eq_joined, joined_cons]
  exact List.append_ne_nil_of_left_ne_nil (inspectChars_ne_nil key) _

theorem pathChars_injective {p q : List Key}
    (hp : ∀ name, sym name ∈ p → ¬[',', ' '] <:+: name.toList)
    (hq : ∀ name, sym name ∈ q → ¬[',', ' '] <:+: name.toList)
    (h : pathChars p = pathChars q) : p = q := by
  induction p generalizing q with
  | nil =>
    cases q with
    | nil => rfl
    | cons key q => exact absurd h.symm (pathChars_cons_ne_nil key q)
  | cons key p ih =>
    cases q with
    | nil => exact absurd h (pathChars_cons_ne_nil key p)
    | cons other q =>
      rw [pathChars_eq_joined, pathChars_eq_joined, joined_cons, joined_cons] at h
      obtain ⟨rfl, htail⟩ := eq_of_append_eq_of_separated
        (fun name hn => hp name (hn ▸ List.mem_cons_self))
        (fun name hn => hq name (hn ▸ List.mem_cons_self))
        (separated_joinedTail _ p) (separated_joinedTail _ q) h
      cases p with
      | nil =>
        cases q with
        | nil => rfl
        | cons next q => cases htail
      | cons next p =>
        cases q with
        | nil => cases htail
        | cons next' q =>
          have hrest : pathChars (next :: p) = pathChars (next' :: q) := by
            rw [pathChars_eq_joined, pathChars_eq_joined]
            exact (List.cons.inj (List.cons.inj htail).2).2
          have heq := ih (fun name hn => hp name (List.mem_cons_of_mem _ hn))
            (fun name hn => hq name (List.mem_cons_of_mem _ hn)) hrest
          exact congrArg (key :: ·) heq

/-- Paths that are written alike are the same, if no symbol in them has a comma with a space behind
it in its name. Single keys that are written alike are the same without any condition. -/
theorem eq_of_describePath_eq :
    (∀ p q : List Key, (∀ name, sym name ∈ p → ¬[',', ' '] <:+: name.toList) →
      (∀ name, sym name ∈ q → ¬[',', ' '] <:+: name.toList) →
        describePath p = describePath q → p = q) ∧
    Function.Injective inspect := by
  constructor
  · intro p q hp hq h
    exact pathChars_injective hp hq (String.ofList_inj.mp h)
  · intro key other h
    exact inspectChars_injective (String.ofList_inj.mp h)

/-- A name that ends in a comma, and a string with the separator and a colon inside. -/
theorem eq_of_describePath_eq_comma :
    let p := [sym "a,", str ", :b", sym " \"", int (-1)]
    let q := [":a,", "\", :b\"", ": \"", "-01"].map parse
    (∀ name, sym name ∈ p → ¬[',', ' '] <:+: name.toList) ∧
      (∀ name, sym name ∈ q → ¬[',', ' '] <:+: name.toList) ∧
      describePath p = ":a,, \", :b\", : \", -1" ∧ describePath q = describePath p ∧ p = q := by
  intro p q
  have hq : q = [sym "a,", str ", :b", sym " \"", int (-1)] := by decide
  have hnames : ∀ name, sym name ∈ p → ¬[',', ' '] <:+: name.toList := by
    intro name hm
    simp only [p, List.mem_cons, sym.injEq, reduceCtorEq, List.not_mem_nil, or_false,
      false_or] at hm
    rcases hm with rfl | rfl <;> decide
  have hnames' : ∀ name, sym name ∈ q → ¬[',', ' '] <:+: name.toList := hq ▸ hnames
  have hsame : describePath q = describePath p := congrArg describePath hq
  exact ⟨hnames, hnames', by decide, hsame, eq_of_describePath_eq.1 p q hnames hnames' hsame.symm⟩

/-- With the separator in a name two paths are written alike. -/
example : describePath [sym "a, :b"] = describePath [sym "a", sym "b"] := by decide

end Key

end KeyPath
