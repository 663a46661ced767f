import KeyPath.Proofs.Assoc
import KeyPath.Proofs.Json.Part
import KeyPath.Proofs.Text.Numeral
import KeyPath.Proofs.Text.Utf8
import KeyPath.Proofs.Value.Part
import KeyPath.Value.Json
import Mathlib.Data.List.Dedup
/-!
# Members of JSON objects

A hash becomes an object with one member for each text that its keys have, in ascending order of
the texts. Several keys may have one text: a symbol, a string, and one key of another kind. The
member is the entry of the greatest of them, and the other entries leave no trace.
-/

namespace KeyPath

open Assoc

namespace Key

end Key

namespace Value

/-- Whether the keys of a hash ascend. -/
def keysAscend : Value → Bool
  | hash entries => decide (Ascending entries)
  | _ => true

/-- Whether the keys of all hashes in a value ascend. -/
def ordered (value : Value) : Bool := value.everywhere keysAscend

end Value

/-- A value in which the keys of all hashes ascend, as they do in every value that is built. -/
structure OrderedValue where
  value : Value
  ordered : value.ordered = true

instance : Coe OrderedValue Value := ⟨OrderedValue.value⟩

namespace Value

theorem toJsonItems_eq_map (items : List Value) : toJsonItems items = items.map toJson := by
  induction items with
  | nil => rfl
  | cons item rest ih => rw [toJsonItems, ih, List.map_cons]

theorem toJsonEntries_eq_map (entries : List (Key × Value)) :
    toJsonEntries entries =
      entries.map fun entry => (entry.1.memberName, entry.2.toJson) := by
  induction entries with
  | nil => rfl
  | cons entry rest ih => rw [toJsonEntries, ih, List.map_cons]

/-- An entry whose key has a given text and is the greatest of the keys that have it. -/
structure IsGreatest (entries : List (Key × Value)) (name : String) (key : Key) (value : Value) :
    Prop where
  mem : (key, value) ∈ entries
  name_eq : key.memberName = name
  greatest : ∀ entry ∈ entries, entry.1.memberName = name → (compare entry.1 key).isLE = true

variable {entries : List (Key × Value)} {name : String} {key : Key} {value : Value}

theorem IsGreatest.unique {key' : Key} {value' : Value} (h : Ascending entries)
    (ha : IsGreatest entries name key value) (hb : IsGreatest entries name key' value') :
    value = value' := by
  have hle := hb.greatest _ ha.mem ha.name_eq
  have hge := ha.greatest _ hb.mem hb.name_eq
  have hkey : key = key' :=
    Std.LawfulEqOrd.eq_of_compare (Std.OrientedCmp.isLE_antisymm hle hge)
  subst hkey
  have hvalue := (lookup_eq_some_iff h).mpr ha.mem
  rw [(lookup_eq_some_iff h).mpr hb.mem, Option.some.injEq] at hvalue
  exact hvalue.symm

end Value

end KeyPath
