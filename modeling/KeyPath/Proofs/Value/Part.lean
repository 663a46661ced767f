import KeyPath.Lookup.Walk
/-!
# Parts of values

A key names a part of a hash or an array, and a path of keys names a part further inside. What
holds everywhere in a value holds of every part that a path leads to.
-/

namespace KeyPath

namespace Value

mutual

/-- Whether a test passes on a value and on all values inside it, wrapped ones included. -/
def everywhere (test : Value → Bool) : Value → Bool
  | array items => test (array items) && everywhereItems test items
  | hash entries => test (hash entries) && everywhereEntries test entries
  | wrapped id content => test (wrapped id content) && everywhere test content
  | nil => test nil
  | bool b => test (bool b)
  | int i => test (int i)
  | float x => test (float x)
  | str text => test (str text)
  | sym name => test (sym name)
  | custom object => test (custom object)

def everywhereItems (test : Value → Bool) : List Value → Bool
  | [] => true
  | item :: rest => everywhere test item && everywhereItems test rest

def everywhereEntries (test : Value → Bool) : List (Key × Value) → Bool
  | [] => true
  | (_, value) :: rest => everywhere test value && everywhereEntries test rest

end

theorem test_of_everywhere {test : Value → Bool} {value : Value}
    (h : value.everywhere test = true) : test value = true := by
  cases value <;> simp_all [everywhere]

theorem everywhereItems_iff {test : Value → Bool} {items : List Value} :
    everywhereItems test items = true ↔ ∀ item ∈ items, item.everywhere test = true := by
  induction items with
  | nil => simp [everywhereItems]
  | cons first rest ih => simp [everywhereItems, ih]

theorem everywhereEntries_iff {test : Value → Bool} {entries : List (Key × Value)} :
    everywhereEntries test entries = true ↔
      ∀ entry ∈ entries, entry.2.everywhere test = true := by
  induction entries with
  | nil => simp [everywhereEntries]
  | cons first rest ih => simp [everywhereEntries, ih]

theorem everywhere_of_mem_items {test : Value → Bool} {items : List Value} {item : Value}
    (h : everywhereItems test items = true) (hm : item ∈ items) :
    item.everywhere test = true :=
  everywhereItems_iff.mp h item hm

theorem everywhere_of_mem_entries {test : Value → Bool} {entries : List (Key × Value)}
    {key : Key} {value : Value} (h : everywhereEntries test entries = true)
    (hm : (key, value) ∈ entries) : value.everywhere test = true :=
  everywhereEntries_iff.mp h (key, value) hm

/-- Arrays by their items, hashes by their entries, and other values one by one; what is wrapped
counts for nothing. -/
@[elab_as_elim]
theorem induction {motive : Value → Prop}
    (leaf : ∀ value, (∀ items, value ≠ array items) → (∀ entries, value ≠ hash entries) →
      motive value)
    (array : ∀ items, (∀ item ∈ items, motive item) → motive (array items))
    (hash : ∀ entries, (∀ entry ∈ entries, motive entry.2) → motive (hash entries))
    (value : Value) : motive value := by
  cases value with
  | array items => exact array items fun item _ => induction leaf array hash item
  | hash entries => exact hash entries fun ⟨key, content⟩ _ => induction leaf array hash content
  | _ => exact leaf _ nofun nofun
termination_by value
decreasing_by
  · have hlt := List.sizeOf_lt_of_mem ‹item ∈ items›
    rw [Value.array.sizeOf_spec]
    omega
  · have hlt := List.sizeOf_lt_of_mem ‹(key, content) ∈ entries›
    rw [Prod.mk.sizeOf_spec] at hlt
    rw [Value.hash.sizeOf_spec]
    omega

mutual

/-- How deep containers are nested in a value, objects not looked into. -/
def depth : Value → Nat
  | array items => depthItems items + 1
  | hash entries => depthEntries entries + 1
  | _ => 0

def depthItems : List Value → Nat
  | [] => 0
  | item :: rest => max item.depth (depthItems rest)

def depthEntries : List (Key × Value) → Nat
  | [] => 0
  | (_, value) :: rest => max value.depth (depthEntries rest)

end

theorem depthItems_le_iff {levels : Nat} {items : List Value} :
    depthItems items ≤ levels ↔ ∀ item ∈ items, item.depth ≤ levels := by
  induction items with
  | nil => simp [depthItems]
  | cons first rest ih => rw [depthItems, Nat.max_le, ih, List.forall_mem_cons]

theorem depthEntries_le_iff {levels : Nat} {entries : List (Key × Value)} :
    depthEntries entries ≤ levels ↔ ∀ entry ∈ entries, entry.2.depth ≤ levels := by
  induction entries with
  | nil => simp [depthEntries]
  | cons first rest ih => rw [depthEntries, Nat.max_le, ih, List.forall_mem_cons]

theorem depth_le_depthItems {items : List Value} {item : Value} (hm : item ∈ items) :
    item.depth ≤ depthItems items :=
  depthItems_le_iff.mp (Nat.le_refl _) item hm

theorem depth_le_depthEntries {entries : List (Key × Value)} {entry : Key × Value}
    (hm : entry ∈ entries) : entry.2.depth ≤ depthEntries entries :=
  depthEntries_le_iff.mp (Nat.le_refl _) entry hm

/-- Whether a value is no object itself. -/
def isPlain (value : Value) : Bool := value.object?.isNone

/-- Whether no object occurs in a value. -/
def objectFree (value : Value) : Bool := value.everywhere isPlain

theorem object?_of_objectFree {value : Value} (h : value.objectFree = true) :
    value.object? = none :=
  Option.isNone_iff_eq_none.mp (test_of_everywhere h)

/-- Whether a value is neither a container nor an object. -/
def isScalar : Value → Bool
  | array _ | hash _ | wrapped _ _ | custom _ => false
  | _ => true

theorem everywhere_of_isScalar {test : Value → Bool} {value : Value} (h : value.isScalar = true) :
    value.everywhere test = test value := by
  cases value with
  | array | hash | wrapped | custom => cases h
  | _ => rfl

theorem depth_of_isScalar {value : Value} (h : value.isScalar = true) : value.depth = 0 := by
  cases value with
  | array | hash | wrapped | custom => cases h
  | _ => rfl

/-- Whether a value is a container that takes a key: a hash takes all keys, an array integers. -/
def accepts : Value → Key → Bool
  | hash _, _ => true
  | array _, .int _ => true
  | _, _ => false

end Value

/-- A key leads to the entry of a hash under the identical key, and an integer to a position of
an array, counted from the start or, when negative, from the end. -/
inductive Entry : Value → Key → Value → Prop where
  | hash {entries : List (Key × Value)} {key : Key} {value : Value} :
      entries.lookup key = some value → Entry (.hash entries) key value
  | array {items : List Value} {index : Int64} {position : Nat} {value : Value} :
      items[position]? = some value →
      (index.toInt = position ∨ index.toInt = position - items.length) →
      Entry (.array items) (.int index) value

/-- Keys lead from a value through existing entries and positions to a value. -/
inductive Addresses : Value → List Key → Value → Prop where
  | here {value : Value} : Addresses value [] value
  | step {value next target : Value} {key : Key} {rest : List Key} :
      Entry value key next → Addresses next rest target → Addresses value (key :: rest) target

namespace Entry

variable {value next : Value} {key : Key}

theorem accepts (h : Entry value key next) : value.accepts key = true := by
  cases h <;> rfl

theorem object?_eq_none (h : Entry value key next) : value.object? = none := by
  cases h <;> rfl

theorem ne_nil (h : Entry value key next) : value ≠ .nil := by
  cases h <;> simp

theorem everywhere {test : Value → Bool} (h : Entry value key next)
    (ht : value.everywhere test = true) : next.everywhere test = true := by
  cases h with
  | hash hl =>
    rw [Value.everywhere, Bool.and_eq_true] at ht
    obtain ⟨before, after, rfl, _⟩ := List.lookup_eq_some_iff.mp hl
    exact Value.everywhere_of_mem_entries ht.2 (List.mem_append_right _ List.mem_cons_self)
  | array hi _ =>
    rw [Value.everywhere, Bool.and_eq_true] at ht
    exact Value.everywhere_of_mem_items ht.2 (List.mem_of_getElem? hi)

private theorem depth_lt (h : Entry value key next) : next.depth < value.depth := by
  cases h with
  | hash hl =>
    obtain ⟨before, after, rfl, _⟩ := List.lookup_eq_some_iff.mp hl
    have hm : (key, next) ∈ before ++ (key, next) :: after :=
      List.mem_append_right _ List.mem_cons_self
    exact Nat.lt_succ_of_le (Value.depth_le_depthEntries hm)
  | array hi _ =>
    exact Nat.lt_succ_of_le (Value.depth_le_depthItems (List.mem_of_getElem? hi))

end Entry

namespace Addresses

variable {root target : Value} {path : List Key}

theorem everywhere {test : Value → Bool} (h : Addresses root path target)
    (ht : root.everywhere test = true) : target.everywhere test = true := by
  induction h with
  | here => exact ht
  | step he _ ih => exact ih (he.everywhere ht)

theorem depth_le (h : Addresses root path target) : target.depth ≤ root.depth := by
  induction h with
  | here => exact Nat.le_refl _
  | step he _ ih =>
    have hlt := he.depth_lt
    omega

theorem root_ne_nil (h : Addresses root path target) (hn : target ≠ .nil) : root ≠ .nil := by
  cases h with
  | here => exact hn
  | step he _ => exact he.ne_nil

end Addresses

/-- A value stands somewhere in another, objects not looked into. -/
inductive Inside : Value → Value → Prop where
  | here {value : Value} : Inside value value
  | item {value item : Value} {items : List Value} :
      item ∈ items → Inside value item → Inside value (.array items)
  | entry {value content : Value} {key : Key} {entries : List (Key × Value)} :
      (key, content) ∈ entries → Inside value content → Inside value (.hash entries)

theorem Inside.everywhere {test : Value → Bool} {value root : Value} (h : Inside value root)
    (ht : root.everywhere test = true) : value.everywhere test = true := by
  induction h with
  | here => exact ht
  | item hm _ ih =>
    rw [Value.everywhere, Bool.and_eq_true] at ht
    exact ih (Value.everywhere_of_mem_items ht.2 hm)
  | entry hm _ ih =>
    rw [Value.everywhere, Bool.and_eq_true] at ht
    exact ih (Value.everywhere_of_mem_entries ht.2 hm)

end KeyPath
