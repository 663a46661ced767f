import KeyPath.Proofs.Lookup.Walk
import KeyPath.Proofs.Value.Members
/-!
# Strings as symbols

Making the string keys of all hashes symbols changes no lookup whose own strings are made symbols as
well, as long as there were no symbols before: strings and symbols are ordered alike, and both
come after all other keys.
-/

namespace KeyPath

open Assoc

namespace Key

def isSymbol : Key → Bool
  | sym _ => true
  | _ => false

/-- A string becomes the symbol of its text; other keys stay. -/
def symbolize : Key → Key
  | str text => sym text
  | key => key

variable {a b : Key}

theorem compare_symbolize (ha : a.isSymbol = false) (hb : b.isSymbol = false) :
    compare a.symbolize b.symbolize = compare a b := by
  cases a with
  | sym => cases ha
  | _ =>
    cases b with
    | sym => cases hb
    | _ => rfl

private theorem eq_of_symbolize_eq (ha : a.isSymbol = false) (hb : b.isSymbol = false)
    (h : a.symbolize = b.symbolize) : a = b := by
  have hc := compare_symbolize ha hb
  rw [h, Std.ReflOrd.compare_self] at hc
  exact compare_eq_iff.mp hc.symm

theorem asIndex?_symbolize (key : Key) : key.symbolize.asIndex? = key.asIndex? := by
  cases key <;> rfl

end Key

namespace Value

mutual

/-- Make the string keys of all hashes symbols, those inside objects apart. -/
def symbolize : Value → Value
  | array items => array (symbolizeItems items)
  | hash entries => hash (ofList (symbolizeEntries entries))
  | wrapped id content => wrapped id content
  | nil => nil
  | bool b => bool b
  | int i => int i
  | float x => float x
  | str text => str text
  | sym name => sym name
  | custom object => custom object

def symbolizeItems : List Value → List Value
  | [] => []
  | item :: rest => item.symbolize :: symbolizeItems rest

def symbolizeEntries : List (Key × Value) → List (Key × Value)
  | [] => []
  | (key, value) :: rest => (key.symbolize, value.symbolize) :: symbolizeEntries rest

end

theorem symbolizeItems_eq_map (items : List Value) :
    symbolizeItems items = items.map symbolize := by
  induction items with
  | nil => rfl
  | cons item rest ih => simp [symbolizeItems, ih]

theorem symbolizeEntries_eq_map (entries : List (Key × Value)) :
    symbolizeEntries entries =
      entries.map fun entry => (entry.1.symbolize, entry.2.symbolize) := by
  induction entries with
  | nil => rfl
  | cons entry rest ih => simp [symbolizeEntries, ih]

/-- Whether no key of a hash is a symbol. -/
def lacksSymbolKeys : Value → Bool
  | hash entries => entries.all fun entry => !entry.1.isSymbol
  | _ => true

/-- The test of a value that can have its keys made symbols without a loss. -/
def symbolizable (value : Value) : Bool := value.keysAscend && value.lacksSymbolKeys

variable {value : Value} {key : Key}

private theorem symbolizable_hash_iff {entries : List (Key × Value)} :
    (hash entries).symbolizable = true ↔
      Ascending entries ∧ ∀ entry ∈ entries, entry.1.isSymbol = false := by
  simp [symbolizable, keysAscend, lacksSymbolKeys]

private theorem symbolize_hash {entries : List (Key × Value)}
    (h : (hash entries).symbolizable = true) :
    (hash entries).symbolize =
      hash (entries.map fun entry => (entry.1.symbolize, entry.2.symbolize)) := by
  obtain ⟨hasc, hsym⟩ := symbolizable_hash_iff.mp h
  rw [symbolize, symbolizeEntries_eq_map, ← map_ofList, ofList_eq_self hasc]
  intro a ha b hb
  exact Key.compare_symbolize (hsym a ha) (hsym b hb)

theorem object?_symbolize (value : Value) : value.symbolize.object? = value.object? := by
  cases value <;> rfl

theorem isNil_symbolize (value : Value) : value.symbolize.isNil = value.isNil := by
  cases value <;> rfl

end Value

def DigError.symbolize : DigError → DigError
  | noKeys => noKeys
  | notDiggable typeName key => notDiggable typeName key.symbolize
  | invalidIndex key => invalidIndex key.symbolize

def Lookup.symbolize : Lookup → Lookup
  | found value => found value.symbolize
  | absent => absent

/-- The result with the keys of the value found, or the key in the failure, made symbols. -/
def DigResult.symbolize (result : DigResult) : DigResult :=
  (result.map Lookup.symbolize).mapError DigError.symbolize

open Value

variable {value : Value} {key : Key}

theorem index_symbolize (hv : value.symbolizable = true) (hk : key.isSymbol = false) :
    value.symbolize.index key.symbolize =
      ((value.index key).map (Option.map Value.symbolize)).mapError DigError.symbolize := by
  cases value with
  | hash entries =>
    obtain ⟨_, hsym⟩ := symbolizable_hash_iff.mp hv
    have hlookup := lookup_map_keys Key.symbolize Value.symbolize key fun entry he =>
      Key.eq_of_symbolize_eq hk (hsym entry he)
    rw [symbolize_hash hv, Value.index, Value.index, get?_eq_lookup, get?_eq_lookup, hlookup]
    rfl
  | array items =>
    rw [Value.symbolize, symbolizeItems_eq_map, Value.index, Value.index, resolveIndex,
      resolveIndex, Key.asIndex?_symbolize, List.length_map]
    cases key.asIndex? with
    | none => rfl
    | some index =>
      cases hp : position? index.toInt items.length <;>
        simp [hp, Except.map, Except.mapError]
  | bool b => cases b <;> rfl
  | _ => rfl

theorem walk_symbolize {root : Value} (hr : root.everywhere symbolizable = true)
    {keys : List Key} (hk : ∀ key ∈ keys, key.isSymbol = false) :
    walk root.symbolize (keys.map Key.symbolize) =
      match walk root keys with
      | .settled result => .settled result.symbolize
      | .handOver object rest => .handOver object (rest.map Key.symbolize) := by
  induction keys generalizing root with
  | nil =>
    simp only [List.map_nil, walk, Lookup.ofValue, isNil_symbolize]
    cases root.isNil <;> rfl
  | cons key rest ih =>
    have hkey := hk key List.mem_cons_self
    have hrest : ∀ other ∈ rest, other.isSymbol = false :=
      fun other hm => hk other (List.mem_cons_of_mem key hm)
    have hindex := index_symbolize (test_of_everywhere hr) hkey
    rw [List.map_cons, walk, walk, object?_symbolize, hindex]
    cases root.object? with
    | some object => rfl
    | none =>
      cases hi : root.index key with
      | error e => rfl
      | ok found =>
        cases found with
        | none => rfl
        | some next =>
          have hnext : next.everywhere symbolizable = true :=
            (index_eq_some_iff.mp hi).everywhere hr
          simp only [Except.map, Except.mapError, Option.map_some, isNil_symbolize]
          cases next.isNil with
          | true => rfl
          | false => exact ih hnext hrest

/-- Where there are no objects, a lookup with symbols for strings has the result of the lookup with
strings, but for the same change in it. -/
theorem exists_dig_eq_symbolize {root : Value} (ho : root.objectFree = true)
    (hr : root.everywhere symbolizable = true) {keys : List Key}
    (hk : ∀ key ∈ keys, key.isSymbol = false) :
    ∃ result, ∀ {m : Type → Type} [Monad m] (respond : ObjectRef → List Key → m DigResult),
      dig respond root keys = pure result ∧
        dig respond root.symbolize (keys.map Key.symbolize) = pure result.symbolize := by
  by_cases hn : keys = []
  · subst hn
    exact ⟨.error .noKeys, fun _ => ⟨rfl, rfl⟩⟩
  · obtain ⟨result, hw⟩ := exists_walk_eq_settled_of_objectFree ho keys
    have hs := walk_symbolize hr hk
    rw [hw] at hs
    have hm : keys.map Key.symbolize ≠ [] := by simpa using hn
    exact ⟨result, fun _ => ⟨digWith_of_settled _ hn hw, digWith_of_settled _ hm hs⟩⟩

end KeyPath
