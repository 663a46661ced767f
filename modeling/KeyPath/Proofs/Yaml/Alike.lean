import KeyPath.Proofs.Yaml.Key
import KeyPath.Proofs.Yaml.Rounded
import Mathlib.Data.List.Perm.Basic
/-!
# YAML trees that are alike

A value does not show all of a mapping: of the entries whose keys collapse it has the last one, it
has them in the order of their keys, and it has the keys that these collapse to. Trees without tags
and with rounded numbers have one value exactly if they are alike but for this, at any depth.
-/

namespace KeyPath.Yaml

open KeyPath.Yaml.Tree

/-- The entries of a mapping that a value has: those with whose key no later one collapses. -/
def kept (entries : List (Tree × Tree)) : List (Tree × Tree) :=
  entries.pwFilter fun a b => a.1.toKey ⟨false⟩ ≠ b.1.toKey ⟨false⟩

mutual

/-- Two trees that are the same but for the entries of mappings that are not kept, the order of the
others, and keys of mappings that collapse. -/
inductive Alike : Tree → Tree → Prop where
  | scalar {tree : Tree} : tree.isScalar = true → Alike tree tree
  | sequence {items others : List Tree} :
      List.Forall₂ Alike items others → Alike (.sequence items) (.sequence others)
  | mapping {entries between others : List (Tree × Tree)} : (kept entries).Perm between →
      List.Forall₂ (fun a b => Collapse a.1 b.1) between (kept others) →
      List.Forall₂ (fun a b => Alike a.2 b.2) between (kept others) →
      Alike (.mapping entries) (.mapping others)

/-- Two keys of mappings that are alike, or one of which spells the other. -/
inductive Collapse : Tree → Tree → Prop where
  | alike {a b : Tree} : Alike a b → Collapse a b
  | spells {a b : Tree} : (a.toValue ⟨false⟩).Spells (b.toValue ⟨false⟩) → Collapse a b
  | spelled {a b : Tree} : (b.toValue ⟨false⟩).Spells (a.toValue ⟨false⟩) → Collapse a b

end

namespace Tree

/-- What a tree is compared by: it has no tags, and its numbers are rounded. -/
def bare (tree : Tree) : Tree := tree.untag.rounded

theorem toValue_bare {options : LoadOptions} (tree : Tree) :
    tree.bare.toValue options = tree.toValue options := by
  rw [bare, toValue_rounded, toValue_untag]

theorem toKey_bare {options : LoadOptions} (tree : Tree) :
    tree.bare.toKey options = tree.toKey options := by
  rw [toKey, toKey, toValue_bare]

private theorem bare_sequence (items : List Tree) :
    (sequence items).bare = sequence (items.map bare) := by
  rw [bare, untag, untagItems_eq_map, rounded, roundedItems_eq_map, List.map_map]
  rfl

theorem bare_mapping (entries : List (Tree × Tree)) :
    (mapping entries).bare = mapping (entries.map fun entry => (entry.1.bare, entry.2.bare)) := by
  rw [bare, untag, untagEntries_eq_map, rounded, roundedEntries_eq_map, List.map_map]
  rfl

theorem bare_tagged (tag : String) (content : Tree) : (tagged tag content).bare = content.bare := by
  rw [bare, untag, ← bare]

end Tree

private theorem kept_map_bare (entries : List (Tree × Tree)) :
    kept (entries.map fun entry => (entry.1.bare, entry.2.bare)) =
      (kept entries).map fun entry => (entry.1.bare, entry.2.bare) := by
  simp only [kept, List.pwFilter_map, toKey_bare]

private theorem nodup_keys_kept (entries : List (Tree × Tree)) :
    (keys ⟨false⟩ (kept entries)).Nodup :=
  List.pairwise_map.mpr (List.pairwise_pwFilter entries)

theorem toValueEntries_kept (entries : List (Tree × Tree)) :
    toValueEntries ⟨false⟩ (kept entries) =
      (toValueEntries ⟨false⟩ entries).pwFilter fun a b => a.1 ≠ b.1 := by
  rw [toValueEntries_eq_map, toValueEntries_eq_map, List.pwFilter_map]
  rfl

private theorem ofList_kept (entries : List (Tree × Tree)) :
    Assoc.ofList (toValueEntries ⟨false⟩ (kept entries)) =
      Assoc.ofList (toValueEntries ⟨false⟩ entries) := by
  rw [toValueEntries_kept, Assoc.ofList_pwFilter]

private theorem nodup_toValueEntries_kept (entries : List (Tree × Tree)) :
    ((toValueEntries ⟨false⟩ (kept entries)).map Prod.fst).Nodup := by
  rw [toValueEntries_eq_map, List.map_map]
  exact nodup_keys_kept entries

theorem Collapse.toKey_eq {a b : Tree} (h : Collapse a b)
    (halike : Alike a b → a.toValue ⟨false⟩ = b.toValue ⟨false⟩) :
    a.toKey ⟨false⟩ = b.toKey ⟨false⟩ := by
  cases h with
  | alike h => exact toKey_eq_iff.mpr (.inl (halike h))
  | spells h => exact toKey_eq_iff.mpr (.inr (.inl h))
  | spelled h => exact toKey_eq_iff.mpr (.inr (.inr h))

theorem Alike.toValue_eq {a b : Tree} (h : Alike a b) :
    a.toValue ⟨false⟩ = b.toValue ⟨false⟩ := by
  induction a using Tree.induction generalizing b with
  | scalar tree hs =>
    cases h with
    | scalar => rfl
    | _ => cases hs
  | sequence items ih =>
    cases h with
    | scalar hs => cases hs
    | sequence hitems =>
      have hvalues := map_eq_of_forall₂ hitems fun item hm other h => ih item hm h
      simp only [toValue, toValueItems_eq_map, hvalues]
  | mapping entries ih =>
    cases h with
    | scalar hs => cases hs
    | @mapping _ between others hperm hkeys hvalues =>
      have hmem : ∀ entry ∈ between, entry ∈ entries := fun entry hm =>
        List.pwFilter_subset entries (hperm.mem_iff.mpr hm)
      have hmove : Assoc.ofList (toValueEntries ⟨false⟩ (kept entries)) =
          Assoc.ofList (toValueEntries ⟨false⟩ between) := by
        apply Assoc.ofList_eq_of_perm (nodup_toValueEntries_kept entries)
        simp only [toValueEntries_eq_map]
        exact hperm.map _
      have hk := map_eq_of_forall₂ hkeys fun entry hm other h =>
        h.toKey_eq (ih entry (hmem entry hm)).1
      have hv := map_eq_of_forall₂ hvalues fun entry hm other h => (ih entry (hmem entry hm)).2 h
      have hinside : toValueEntries ⟨false⟩ between = toValueEntries ⟨false⟩ (kept others) := by
        have hzip := congrArg₂ List.zip hk hv
        simpa [List.zip_map', toValueEntries_eq_map, toKey] using hzip
      simp only [toValue]
      rw [← ofList_kept, hmove, hinside, ofList_kept]
  | tagged tag content =>
    cases h with
    | scalar hs => cases hs

/-- Entries that become the same ones are paired off. -/
private theorem exists_between {entries others : List (Tree × Tree)}
    (h : (mapping entries).toValue ⟨false⟩ = (mapping others).toValue ⟨false⟩) :
    ∃ between, (kept entries).Perm between ∧
      List.Forall₂ (fun a b => a.1.toKey ⟨false⟩ = b.1.toKey ⟨false⟩ ∧
        a.2.toValue ⟨false⟩ = b.2.toValue ⟨false⟩) between (kept others) := by
  let shown (entry : Tree × Tree) := (entry.1.toKey ⟨false⟩, entry.2.toValue ⟨false⟩)
  have hofList : Assoc.ofList (toValueEntries ⟨false⟩ (kept entries)) =
      Assoc.ofList (toValueEntries ⟨false⟩ (kept others)) := by
    rw [ofList_kept, ofList_kept]
    simpa only [toValue, Value.hash.injEq] using h
  have hperm : ((kept entries).map shown).Perm ((kept others).map shown) := by
    have hentries := Assoc.ofList_perm (nodup_toValueEntries_kept entries)
    have hothers := Assoc.ofList_perm (nodup_toValueEntries_kept others)
    have hshown (list : List (Tree × Tree)) : toValueEntries ⟨false⟩ list = list.map shown :=
      toValueEntries_eq_map ⟨false⟩ list
    rw [hofList] at hentries
    rw [← hshown, ← hshown]
    exact hentries.symm.trans hothers
  have hself : List.Forall₂ (fun entry pair => shown entry = pair) (kept entries)
      ((kept entries).map shown) := by
    rw [List.forall₂_map_right_iff]
    exact List.forall₂_same.mpr fun _ _ => rfl
  -- Entries that become a permutation of others are permuted first and become these then.
  have hcomp : Relation.Comp (List.Forall₂ fun entry pair => shown entry = pair) List.Perm
      (kept entries) ((kept others).map shown) := ⟨_, hself, hperm⟩
  rw [List.forall₂_comp_perm_eq_perm_comp_forall₂] at hcomp
  obtain ⟨between, hbetween, hpairs⟩ := hcomp
  rw [List.forall₂_map_right_iff] at hpairs
  exact ⟨between, hbetween, hpairs.imp fun _ _ hpair => Prod.mk.inj hpair⟩

theorem Collapse.bare {a b : Tree} (h : a.toKey ⟨false⟩ = b.toKey ⟨false⟩)
    (halike : a.toValue ⟨false⟩ = b.toValue ⟨false⟩ → Alike a.bare b.bare) :
    Collapse a.bare b.bare := by
  rcases toKey_eq_iff.mp h with heq | hspells | hspelled
  · exact .alike (halike heq)
  · rw [← toValue_bare a, ← toValue_bare b] at hspells
    exact .spells hspells
  · rw [← toValue_bare a, ← toValue_bare b] at hspelled
    exact .spelled hspelled

namespace Tree

theorem isScalar_toValue {tree : Tree} (hs : tree.isScalar = true) :
    (tree.toValue ⟨false⟩).isScalar = true := by
  cases tree with
  | sequence | mapping | tagged => cases hs
  | number n => exact n.isScalar_toValue
  | _ => rfl

private theorem isScalar_bare {tree : Tree} (hs : tree.isScalar = true) :
    tree.bare.isScalar = true := by
  cases tree with
  | sequence | mapping | tagged => cases hs
  | _ => rfl

private theorem mappingFree_of_isScalar_toValue {tree : Tree}
    (hs : (tree.toValue ⟨false⟩).isScalar = true) : tree.MappingFree := by
  intro entries hi
  induction hi with
  | here => cases hs
  | item => cases hs
  | key => cases hs
  | value => cases hs
  | tagged _ ih =>
    rw [toValue] at hs
    exact ih hs

private theorem exists_sequence_of_toValue_eq {tree : Tree} {values : List Value}
    (h : tree.toValue ⟨false⟩ = .array values) : ∃ items, tree.bare = (sequence items).bare ∧
      items.map (toValue ⟨false⟩) = values := by
  induction tree using Tree.induction with
  | scalar tree hs =>
    have hscalar := isScalar_toValue hs
    rw [h] at hscalar
    cases hscalar
  | sequence items =>
    rw [toValue, toValueItems_eq_map] at h
    exact ⟨items, rfl, Value.array.inj h⟩
  | mapping entries => cases h
  | tagged tag content ih =>
    rw [toValue] at h
    rw [bare_tagged]
    exact ih h

private theorem exists_mapping_of_toValue_eq {tree : Tree} {members : List (Key × Value)}
    (h : tree.toValue ⟨false⟩ = .hash members) : ∃ entries, tree.bare = (mapping entries).bare ∧
      (mapping entries).toValue ⟨false⟩ = .hash members := by
  induction tree using Tree.induction with
  | scalar tree hs =>
    have hscalar := isScalar_toValue hs
    rw [h] at hscalar
    cases hscalar
  | sequence items => cases h
  | mapping entries => exact ⟨entries, rfl, h⟩
  | tagged tag content ih =>
    rw [toValue] at h
    rw [bare_tagged]
    exact ih h

private theorem alike_mapping_bare {entries others : List (Tree × Tree)}
    (h : (mapping entries).toValue ⟨false⟩ = (mapping others).toValue ⟨false⟩)
    (ih : ∀ entry ∈ entries,
      (∀ {b : Tree}, entry.1.toValue ⟨false⟩ = b.toValue ⟨false⟩ → Alike entry.1.bare b.bare) ∧
      ∀ {b : Tree}, entry.2.toValue ⟨false⟩ = b.toValue ⟨false⟩ → Alike entry.2.bare b.bare) :
    Alike (mapping entries).bare (mapping others).bare := by
  obtain ⟨between, hperm, hpairs⟩ := exists_between h
  have hmem : ∀ entry ∈ between, entry ∈ entries := fun entry hm =>
    List.pwFilter_subset entries (hperm.mem_iff.mpr hm)
  let bareEntry (entry : Tree × Tree) := (entry.1.bare, entry.2.bare)
  have hmove : (kept (entries.map bareEntry)).Perm (between.map bareEntry) := by
    rw [kept_map_bare]
    exact hperm.map bareEntry
  rw [bare_mapping, bare_mapping]
  apply Alike.mapping hmove
  · rw [kept_map_bare]
    exact forall₂_map hpairs fun entry hm other hpair =>
      .bare hpair.1 (ih entry (hmem entry hm)).1
  · rw [kept_map_bare]
    exact forall₂_map hpairs fun entry hm other hpair => (ih entry (hmem entry hm)).2 hpair.2

/-- A value tells the tree that it comes from, up to trees that are alike. -/
theorem alike_bare_of_toValue_eq {a b : Tree} (h : a.toValue ⟨false⟩ = b.toValue ⟨false⟩) :
    Alike a.bare b.bare := by
  induction a using Tree.induction generalizing b with
  | scalar tree hs =>
    have hscalar := isScalar_toValue hs
    have hfree := mappingFree_of_isScalar_toValue hscalar
    rw [h] at hscalar
    have hbare : tree.bare = b.bare :=
      rounded_eq_of_toValue_eq hfree (mappingFree_of_isScalar_toValue hscalar) h
    rw [← hbare]
    exact .scalar (isScalar_bare hs)
  | sequence items ih =>
    rw [toValue, toValueItems_eq_map] at h
    obtain ⟨others, hbare, hvalues⟩ := exists_sequence_of_toValue_eq h.symm
    rw [← List.forall₂_eq_eq_eq, List.forall₂_map_left_iff, List.forall₂_map_right_iff] at hvalues
    rw [hbare, bare_sequence, bare_sequence]
    exact .sequence (forall₂_map hvalues.flip fun item hm other h => ih item hm h.symm)
  | mapping entries ih =>
    obtain ⟨others, hbare, hvalue⟩ := exists_mapping_of_toValue_eq h.symm
    rw [hbare]
    exact alike_mapping_bare hvalue.symm ih
  | tagged tag content ih =>
    rw [toValue] at h
    rw [bare_tagged]
    exact ih h

theorem toValue_eq_iff_alike {a b : Tree} :
    a.toValue ⟨false⟩ = b.toValue ⟨false⟩ ↔ Alike a.bare b.bare := by
  constructor
  · exact alike_bare_of_toValue_eq
  · intro h
    rw [← toValue_bare a, ← toValue_bare b]
    exact h.toValue_eq

end Tree

end KeyPath.Yaml
