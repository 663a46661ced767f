import KeyPath.Proofs.Assoc
import KeyPath.Proofs.Key.Order
import KeyPath.Report
import KeyPath.Value.Index
/-!
# Hashes as finite maps

A hash is known by the last value that was given for each key. It holds every key once, in the order
of keys, and in which order its entries were given does not show.
-/

namespace KeyPath

namespace Assoc

variable {α β : Type} {entries : List (α × β)} {key : α} {value : β}

/-- An entry is the last of those with its key. -/
def IsLast (entries : List (α × β)) (key : α) (value : β) : Prop :=
  ∃ before after, entries = before ++ (key, value) :: after ∧ ∀ entry ∈ after, entry.1 ≠ key

private theorem lookup_reverse_eq_some_iff [BEq α] [LawfulBEq α] :
    entries.reverse.lookup key = some value ↔ IsLast entries key value := by
  rw [List.lookup_eq_some_iff]
  constructor
  · rintro ⟨after, before, heq, hafter⟩
    refine ⟨before.reverse, after.reverse, ?_, ?_⟩
    · rw [← List.reverse_reverse entries, heq]
      simp
    · intro entry he
      exact (bne_iff_ne.mp (hafter entry (List.mem_reverse.mp he))).symm
  · rintro ⟨before, after, rfl, hafter⟩
    refine ⟨after.reverse, before.reverse, by simp, ?_⟩
    intro entry he
    exact bne_iff_ne.mpr (hafter entry (List.mem_reverse.mp he)).symm

private theorem lookup_reverse_eq_none_iff [BEq α] [LawfulBEq α] :
    entries.reverse.lookup key = none ↔ ∀ entry ∈ entries, entry.1 ≠ key := by
  rw [List.lookup_eq_none_iff]
  simp only [List.mem_reverse, bne_iff_ne, ne_comm]

private theorem ofList_eq_of_isLast_iff [Ord α] [Std.TransOrd α] [Std.LawfulEqOrd α] [BEq α]
    [LawfulBEq α]
    {others : List (α × β)} (h : ∀ key value, IsLast entries key value ↔ IsLast others key value) :
    ofList entries = ofList others := by
  apply ext_of_ascending (ascending_ofList _) (ascending_ofList _)
  intro key
  rw [lookup_ofList, lookup_ofList]
  apply Option.ext
  intro value
  rw [lookup_reverse_eq_some_iff, lookup_reverse_eq_some_iff, h]

end Assoc

open Assoc

namespace Value

variable {entries : List (Key × Value)}

theorem index_ofEntries (entries : List (Key × Value)) (key : Key) :
    (ofEntries entries).index key = .ok (entries.reverse.lookup key) := by
  rw [ofEntries, index, get?_eq_lookup, lookup_ofList]

/-- The entries that a hash holds: in strictly ascending order of keys, and with the keys that were
given, each of them once. -/
structure HoldsOnce (kept entries : List (Key × Value)) : Prop where
  ascending : kept.Pairwise fun a b => a.1.Precedes b.1
  nodup : (kept.map Prod.fst).Nodup
  mem_keys_iff : ∀ key, key ∈ kept.map Prod.fst ↔ key ∈ entries.map Prod.fst

theorem holdsOnce_ofList (entries : List (Key × Value)) : HoldsOnce (ofList entries) entries where
  ascending := (ascending_ofList entries).imp Key.compare_eq_lt_iff.mp
  nodup := (ascending_ofList entries).nodup_keys
  mem_keys_iff _ := mem_map_fst_ofList

/-- A hash holds its keys once each and in their order, and access by a key gives the last value
given for the identical key. So it is fixed by these values, and so are its texts. The order of keys
is strict and total, and keys compare as equal only if they are identical. -/
theorem ofEntries_canonical :
    (∀ entries : List (Key × Value), ∃ kept,
      ofEntries entries = hash kept ∧ HoldsOnce kept entries ∧ ∀ key,
        (∀ value, (ofEntries entries).index key = .ok (some value) ↔ IsLast entries key value) ∧
        ((ofEntries entries).index key = .ok none ↔ ∀ entry ∈ entries, entry.1 ≠ key)) ∧
    (∀ entries others : List (Key × Value),
      (∀ key value, IsLast entries key value ↔ IsLast others key value) →
      ofEntries entries = ofEntries others ∧
        (ofEntries entries).inspect = (ofEntries others).inspect ∧
        (ofEntries entries).jsonText = (ofEntries others).jsonText ∧
        (ofEntries entries).prettyJsonText = (ofEntries others).prettyJsonText) ∧
    (∀ a b : Key, (compare a b = .lt ↔ a.Precedes b) ∧ (compare a b = .eq ↔ a = b) ∧
      (compare a b = .gt ↔ b.Precedes a)) ∧
    (∀ a : Key, ¬ a.Precedes a) ∧
    (∀ a b c : Key, a.Precedes b → b.Precedes c → a.Precedes c) ∧
    ∀ a b : Key, a.Precedes b ∨ a = b ∨ b.Precedes a := by
  refine ⟨?_, ?_, ?_, Key.Precedes.irrefl, fun _ _ _ => .trans, Key.Precedes.trichotomy⟩
  · intro entries
    refine ⟨_, rfl, holdsOnce_ofList entries, ?_⟩
    intro key
    rw [index_ofEntries]
    refine ⟨?_, ?_⟩
    · intro value
      rw [Except.ok.injEq, lookup_reverse_eq_some_iff]
    · rw [Except.ok.injEq, lookup_reverse_eq_none_iff]
  · intro entries others h
    have heq : ofEntries entries = ofEntries others :=
      congrArg hash (ofList_eq_of_isLast_iff h)
    rw [heq]
    exact ⟨rfl, rfl, rfl, rfl⟩
  · intro a b
    refine ⟨Key.compare_eq_lt_iff, Key.compare_eq_iff, ?_⟩
    rw [← Key.compare_eq_lt_iff]
    exact Std.OrientedCmp.gt_iff_lt

/-- A string, the symbol of its text and the integer of its digits are different keys, and a value
that is given again takes the place of the earlier one. -/
theorem ofEntries_canonical_overwritten :
    let entries : List (Key × Value) :=
      [(.str "1", .nil), (.sym "1", .bool true), (.int 1, .str "x"), (.str "1", .int 7)]
    let others : List (Key × Value) :=
      [(.int 1, .str "x"), (.str "1", .int 7), (.sym "1", .bool true)]
    (∀ key value, IsLast entries key value ↔ IsLast others key value) ∧
      ofEntries entries = ofEntries others ∧
      (ofEntries entries).index (.str "1") = .ok (some (.int 7)) ∧
      (ofEntries entries).index (.sym "1") = .ok (some (.bool true)) ∧
      ofEntries entries = hash others := by
  intro entries others
  have hlast : ∀ key value, IsLast entries key value ↔ IsLast others key value := by
    intro key value
    rw [← lookup_reverse_eq_some_iff, ← lookup_reverse_eq_some_iff]
    have hlookup : entries.reverse.lookup key = others.reverse.lookup key := by
      by_cases hstr : key = .str "1"
      · rw [hstr]
        rfl
      by_cases hsym : key = .sym "1"
      · rw [hsym]
        rfl
      simp [entries, others, List.lookup_cons, beq_eq_false_iff_ne.mpr hstr,
        beq_eq_false_iff_ne.mpr hsym]
    rw [hlookup]
  obtain ⟨hall, hsame, _⟩ := ofEntries_canonical
  have hstr : IsLast entries (.str "1") (.int 7) := ⟨entries.take 3, [], rfl, nofun⟩
  have hsym : IsLast entries (.sym "1") (.bool true) :=
    ⟨entries.take 1, entries.drop 2, rfl, by simp [entries]⟩
  obtain ⟨_, _, _, hindex⟩ := hall entries
  exact ⟨hlast, (hsame entries others hlast).1, ((hindex _).1 _).mpr hstr,
    ((hindex _).1 _).mpr hsym, rfl⟩

end Value

end KeyPath
