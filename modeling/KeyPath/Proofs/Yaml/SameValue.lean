import KeyPath.Proofs.Document.Lazy
import KeyPath.Proofs.Yaml.Part
import Mathlib.Data.List.Forall2
/-!
# YAML trees of one value

Two things about a YAML tree do not show in its value: its tags, and the order of the entries of a
mapping, as long as their keys become different ones.
-/

namespace KeyPath.Yaml

variable {options : LoadOptions}

namespace Tree

mutual

/-- Remove all tags, those in keys included. -/
def untag : Tree → Tree
  | sequence items => sequence (untagItems items)
  | mapping entries => mapping (untagEntries entries)
  | tagged _ content => untag content
  | null => null
  | bool b => bool b
  | number n => number n
  | string text => string text

def untagItems : List Tree → List Tree
  | [] => []
  | item :: rest => item.untag :: untagItems rest

def untagEntries : List (Tree × Tree) → List (Tree × Tree)
  | [] => []
  | (key, value) :: rest => (key.untag, value.untag) :: untagEntries rest

end

theorem untagItems_eq_map (items : List Tree) : untagItems items = items.map untag := by
  induction items with
  | nil => rfl
  | cons item rest ih => simp [untagItems, ih]

theorem untagEntries_eq_map (entries : List (Tree × Tree)) :
    untagEntries entries = entries.map fun entry => (entry.1.untag, entry.2.untag) := by
  induction entries with
  | nil => rfl
  | cons entry rest ih => simp [untagEntries, ih]

theorem toValue_sequence_map {f : Tree → Tree} {items : List Tree}
    (h : ∀ item ∈ items, (f item).toValue options = item.toValue options) :
    (sequence (items.map f)).toValue options = (sequence items).toValue options := by
  simp only [toValue, toValueItems_eq_map, List.map_map, Function.comp_def,
    List.map_congr_left h]

theorem toValue_mapping_map {f : Tree → Tree} {entries : List (Tree × Tree)}
    (h : ∀ entry ∈ entries, (f entry.1).toValue options = entry.1.toValue options ∧
      (f entry.2).toValue options = entry.2.toValue options) :
    (mapping (entries.map fun entry => (f entry.1, f entry.2))).toValue options =
      (mapping entries).toValue options := by
  have hentries : ∀ entry ∈ entries,
      (options.keyOfValue ((f entry.1).toValue options), (f entry.2).toValue options) =
        (options.keyOfValue (entry.1.toValue options), entry.2.toValue options) := by
    intro entry he
    rw [(h entry he).1, (h entry he).2]
  simp only [toValue, toValueEntries_eq_map, List.map_map, Function.comp_def,
    List.map_congr_left hentries]

theorem toValue_untag (tree : Tree) : tree.untag.toValue options = tree.toValue options := by
  induction tree using Tree.induction with
  | scalar tree hs =>
    cases tree with
    | sequence | mapping | tagged => cases hs
    | _ => rfl
  | sequence items ih =>
    rw [untag, untagItems_eq_map]
    exact toValue_sequence_map ih
  | mapping entries ih =>
    rw [untag, untagEntries_eq_map]
    exact toValue_mapping_map ih
  | tagged tag content ih =>
    simp only [untag, toValue]
    exact ih

/-- The keys that the entries of a mapping become. -/
def keys (options : LoadOptions) (entries : List (Tree × Tree)) : List Key :=
  entries.map fun entry => options.keyOfValue (entry.1.toValue options)

/-- Everywhere in a tree the keys of a mapping become different keys, those of a mapping in a key
included. -/
def KeysDistinct (options : LoadOptions) (tree : Tree) : Prop :=
  ∀ entries, Inside (mapping entries) tree → (keys options entries).Nodup

namespace KeysDistinct

theorem scalar {tree : Tree} (h : tree.isScalar = true) : tree.KeysDistinct options := by
  intro entries hi
  cases hi <;> cases h

theorem sequence {items : List Tree} (h : ∀ item ∈ items, item.KeysDistinct options) :
    (Tree.sequence items).KeysDistinct options := by
  intro entries hi
  cases hi with
  | item hm hi => exact h _ hm entries hi

theorem mapping {entries : List (Tree × Tree)} (hn : (keys options entries).Nodup)
    (h : ∀ entry ∈ entries, entry.1.KeysDistinct options ∧ entry.2.KeysDistinct options) :
    (Tree.mapping entries).KeysDistinct options := by
  intro inner hi
  cases hi with
  | here => exact hn
  | key hm hi => exact (h _ hm).1 inner hi
  | value hm hi => exact (h _ hm).2 inner hi

theorem tagged {tag : String} {content : Tree} (h : content.KeysDistinct options) :
    (Tree.tagged tag content).KeysDistinct options := by
  intro entries hi
  cases hi with
  | tagged hi => exact h entries hi

end KeysDistinct

end Tree

open KeyPath.Yaml.Tree

/-- A tree with the entries of some of its mappings in another order, mappings in keys
included. -/
inductive Reordered : Tree → Tree → Prop where
  | same (tree : Tree) : Reordered tree tree
  | sequence {items others : List Tree} :
      List.Forall₂ Reordered items others → Reordered (.sequence items) (.sequence others)
  | mapping {entries between others : List (Tree × Tree)} : entries.Perm between →
      List.Forall₂ (fun a b => Reordered a.1 b.1) between others →
      List.Forall₂ (fun a b => Reordered a.2 b.2) between others →
      Reordered (.mapping entries) (.mapping others)
  | tagged {tag : String} {content other : Tree} :
      Reordered content other → Reordered (.tagged tag content) (.tagged tag other)

theorem forall₂_map {α β γ δ : Type} {R : α → β → Prop} {S : γ → δ → Prop} {f : α → γ} {g : β → δ}
    {as : List α} {bs : List β} (h : List.Forall₂ R as bs)
    (hf : ∀ a ∈ as, ∀ b, R a b → S (f a) (g b)) : List.Forall₂ S (as.map f) (bs.map g) := by
  induction h with
  | nil => exact .nil
  | cons hr _ ih =>
    exact .cons (hf _ List.mem_cons_self _ hr)
      (ih fun a ha => hf a (List.mem_cons_of_mem _ ha))

theorem map_eq_of_forall₂ {α β γ : Type} {R : α → β → Prop} {f : α → γ} {g : β → γ} {as : List α}
    {bs : List β} (h : List.Forall₂ R as bs) (hf : ∀ a ∈ as, ∀ b, R a b → f a = g b) :
    as.map f = bs.map g := by
  have hmap := forall₂_map h hf
  rwa [List.forall₂_eq_eq_eq] at hmap

theorem Reordered.toValue_eq {tree other : Tree} (h : Reordered tree other)
    (hd : tree.KeysDistinct options) : tree.toValue options = other.toValue options := by
  induction tree using Tree.induction generalizing other with
  | scalar tree hs =>
    cases h with
    | same => rfl
    | sequence | mapping | tagged => cases hs
  | sequence items ih =>
    cases h with
    | same => rfl
    | sequence hitems =>
      have hvalues := map_eq_of_forall₂ hitems fun item hm other h =>
        ih item hm h fun entries hi => hd entries (.item hm hi)
      simp only [toValue, toValueItems_eq_map, hvalues]
  | mapping entries ih =>
    cases h with
    | same => rfl
    | @mapping _ between others hperm hkeys hvalues =>
      -- first the entries change places, which is where their keys have to differ
      have hnodup := hd entries .here
      have hmove : Assoc.ofList (toValueEntries options entries) =
          Assoc.ofList (toValueEntries options between) := by
        simp only [toValueEntries_eq_map]
        apply Assoc.ofList_eq_of_perm _ (hperm.map _)
        simpa [keys, Function.comp_def] using hnodup
      -- then each of them changes inside
      have hk := map_eq_of_forall₂ hkeys fun entry hm other h =>
        (ih entry (hperm.mem_iff.mpr hm)).1 h fun inner hi =>
          hd inner (.key (hperm.mem_iff.mpr hm) hi)
      have hv := map_eq_of_forall₂ hvalues fun entry hm other h =>
        (ih entry (hperm.mem_iff.mpr hm)).2 h fun inner hi =>
          hd inner (.value (hperm.mem_iff.mpr hm) hi)
      have hinside : toValueEntries options between = toValueEntries options others := by
        have hzip := congrArg₂ List.zip (congrArg (List.map options.keyOfValue) hk) hv
        simpa [List.zip_map', toValueEntries_eq_map] using hzip
      simp only [toValue, hmove, hinside]
  | tagged tag content ih =>
    cases h with
    | same => rfl
    | tagged hcontent =>
      simp only [toValue]
      exact ih hcontent fun entries hi => hd entries (.tagged hi)

end KeyPath.Yaml
