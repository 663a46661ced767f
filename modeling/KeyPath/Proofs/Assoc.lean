import KeyPath.Assoc
import Mathlib.Data.List.Dedup
import Mathlib.Data.List.Induction
/-!
# Laws of ascending maps

Insertion changes what is stored under one key and keeps a map ascending. An ascending map is
known by what it stores under each key, and inserting its own entries in their order builds it
again. Entries with different keys may be inserted in any order, of entries with one key only the
last one counts, and keys that keep their order may be changed before or after.
-/

namespace KeyPath.Assoc

open Std

variable {α β γ : Type} [Ord α]

/-- The keys of the entries ascend strictly. -/
def Ascending (entries : List (α × β)) : Prop :=
  entries.Pairwise fun a b => compare a.1 b.1 = .lt

instance (entries : List (α × β)) : Decidable (Ascending entries) :=
  inferInstanceAs (Decidable (entries.Pairwise fun a b => compare a.1 b.1 = .lt))

@[simp] theorem ascending_nil : Ascending ([] : List (α × β)) := .nil

theorem ascending_cons {entry : α × β} {rest : List (α × β)} :
    Ascending (entry :: rest) ↔
      (∀ other ∈ rest, compare entry.1 other.1 = .lt) ∧ Ascending rest :=
  List.pairwise_cons

theorem mem_insert {key : α} {value : β} {entries : List (α × β)} {entry : α × β}
    (h : entry ∈ insert key value entries) : entry = (key, value) ∨ entry ∈ entries := by
  induction entries with
  | nil => exact Or.inl (List.mem_singleton.mp h)
  | cons first rest ih =>
    obtain ⟨key', value'⟩ := first
    rw [insert] at h
    split at h
    · exact List.mem_cons.mp h
    · rcases List.mem_cons.mp h with h | h
      · exact Or.inl h
      · exact Or.inr (List.mem_cons_of_mem _ h)
    · rcases List.mem_cons.mp h with rfl | h
      · exact Or.inr List.mem_cons_self
      · exact (ih h).imp_right (List.mem_cons_of_mem _)

theorem mem_of_mem_ofList {entry : α × β} {entries : List (α × β)} (h : entry ∈ ofList entries) :
    entry ∈ entries := by
  induction entries using List.reverseRecOn with
  | nil => cases h
  | append_singleton entries last ih =>
    rw [ofList_append_singleton] at h
    rcases mem_insert h with h | h
    · exact List.mem_append_right _ (List.mem_singleton.mpr h)
    · exact List.mem_append_left _ (ih h)

section

variable [TransOrd α]

theorem ascending_insert (key : α) (value : β) {entries : List (α × β)}
    (h : Ascending entries) : Ascending (insert key value entries) := by
  induction entries with
  | nil => exact List.pairwise_singleton _ _
  | cons first rest ih =>
    obtain ⟨key', value'⟩ := first
    obtain ⟨hfirst, hrest⟩ := ascending_cons.mp h
    rw [insert]
    split
    · next hlt =>
      refine ascending_cons.mpr ⟨?_, h⟩
      intro other ho
      rcases List.mem_cons.mp ho with rfl | ho
      · exact hlt
      · exact TransCmp.lt_trans hlt (hfirst other ho)
    · next heq =>
      refine ascending_cons.mpr ⟨?_, hrest⟩
      intro other ho
      exact TransCmp.lt_of_eq_of_lt heq (hfirst other ho)
    · next hgt =>
      refine ascending_cons.mpr ⟨?_, ih hrest⟩
      intro other ho
      rcases mem_insert ho with rfl | ho
      · exact OrientedCmp.lt_of_gt hgt
      · exact hfirst other ho

theorem ascending_ofList (entries : List (α × β)) : Ascending (ofList entries) := by
  induction entries using List.reverseRecOn with
  | nil => exact ascending_nil
  | append_singleton entries entry ih =>
    obtain ⟨key, value⟩ := entry
    rw [ofList_append_singleton]
    exact ascending_insert key value ih

end

theorem insert_append {key : α} (value : β) {entries : List (α × β)}
    (h : ∀ entry ∈ entries, compare key entry.1 = .gt) :
    insert key value entries = entries ++ [(key, value)] := by
  induction entries with
  | nil => rfl
  | cons first rest ih =>
    rw [insert, h first List.mem_cons_self, List.cons_append,
      ih fun entry he => h entry (List.mem_cons_of_mem _ he)]

theorem ofList_eq_self [TransOrd α] {entries : List (α × β)} (h : Ascending entries) :
    ofList entries = entries := by
  induction entries using List.reverseRecOn with
  | nil => rfl
  | append_singleton entries entry ih =>
    obtain ⟨hentries, _, hlast⟩ := List.pairwise_append.mp h
    rw [ofList_append_singleton, ih hentries]
    refine insert_append _ ?_
    intro other ho
    exact OrientedCmp.gt_of_lt (hlast other ho entry (List.mem_singleton.mpr rfl))

section

variable [LawfulEqOrd α] [BEq α] [LawfulBEq α]

theorem lookup_insert (key key' : α) (value : β) (entries : List (α × β)) :
    (insert key value entries).lookup key' =
      if key' == key then some value else entries.lookup key' := by
  induction entries with
  | nil =>
    rw [insert, List.lookup_cons, List.lookup_nil]
    cases key' == key <;> rfl
  | cons first rest ih =>
    obtain ⟨other, value'⟩ := first
    rw [insert]
    split
    · rw [List.lookup_cons]
      cases key' == key <;> rfl
    · next heq =>
      rw [LawfulEqCmp.eq_of_compare heq, List.lookup_cons, List.lookup_cons]
      cases key' == other <;> rfl
    · next hgt =>
      rw [List.lookup_cons, List.lookup_cons, ih]
      cases hk : key' == other with
      | false => rfl
      | true =>
        have hne : (key' == key) = false := by
          rw [beq_eq_false_iff_ne]
          rintro rfl
          rw [eq_of_beq hk, ReflOrd.compare_self] at hgt
          cases hgt
        rw [hne]
        rfl

/-- The last value given for a key is the one that is stored. -/
theorem lookup_ofList (key : α) (entries : List (α × β)) :
    (ofList entries).lookup key = entries.reverse.lookup key := by
  induction entries using List.reverseRecOn with
  | nil => rfl
  | append_singleton entries entry ih =>
    obtain ⟨key', value⟩ := entry
    rw [ofList_append_singleton, lookup_insert, ih, List.reverse_concat, List.lookup_cons]
    cases key == key' <;> rfl

end

omit [Ord α] in
theorem lookup_map_keys {α' : Type} [BEq α] [LawfulBEq α] [BEq α'] [LawfulBEq α'] (f : α → α')
    (g : β → γ) (key : α) {entries : List (α × β)}
    (h : ∀ entry ∈ entries, f key = f entry.1 → key = entry.1) :
    (entries.map fun entry => (f entry.1, g entry.2)).lookup (f key) =
      (entries.lookup key).map g := by
  induction entries with
  | nil => rfl
  | cons first rest ih =>
    obtain ⟨key', value'⟩ := first
    have hrest := ih fun entry he => h entry (List.mem_cons_of_mem _ he)
    rw [List.map_cons, List.lookup_cons, List.lookup_cons, hrest]
    cases hk : key == key' with
    | true => simp [eq_of_beq hk]
    | false =>
      have hne : key ≠ key' := beq_eq_false_iff_ne.mp hk
      have hf : (f key == f key') = false :=
        beq_eq_false_iff_ne.mpr fun hf => hne (h (key', value') List.mem_cons_self hf)
      rw [hf]

omit [Ord α] in
theorem lookup_map [BEq α] [LawfulBEq α] (f : β → γ) (key : α) (entries : List (α × β)) :
    (entries.map fun entry => (entry.1, f entry.2)).lookup key = (entries.lookup key).map f :=
  lookup_map_keys id f key fun _ _ heq => heq

theorem Ascending.nodup_keys [ReflOrd α] {entries : List (α × β)} (h : Ascending entries) :
    (entries.map Prod.fst).Nodup := by
  refine List.pairwise_map.mpr (h.imp ?_)
  intro a b hlt heq
  rw [heq, ReflOrd.compare_self] at hlt
  cases hlt

omit [Ord α] in
theorem lookup_eq_some_iff_of_nodup [BEq α] [LawfulBEq α] {key : α} {value : β}
    {entries : List (α × β)} (h : (entries.map Prod.fst).Nodup) :
    entries.lookup key = some value ↔ (key, value) ∈ entries := by
  induction entries with
  | nil => simp
  | cons first rest ih =>
    obtain ⟨key', value'⟩ := first
    obtain ⟨hfirst, hrest⟩ := List.nodup_cons.mp h
    rw [List.lookup_cons, List.mem_cons, Prod.mk.injEq]
    cases hk : key == key' with
    | false =>
      have hne : key ≠ key' := beq_eq_false_iff_ne.mp hk
      simp [hne, ih hrest]
    | true =>
      have heq : key = key' := eq_of_beq hk
      subst heq
      have hnot : (key, value) ∉ rest := fun hm => hfirst (List.mem_map.mpr ⟨_, hm, rfl⟩)
      simp [hnot, eq_comm]

theorem lookup_eq_some_iff [ReflOrd α] [BEq α] [LawfulBEq α] {key : α} {value : β}
    {entries : List (α × β)} (h : Ascending entries) :
    entries.lookup key = some value ↔ (key, value) ∈ entries :=
  lookup_eq_some_iff_of_nodup h.nodup_keys

omit [Ord α] in
theorem mem_map_fst_iff [BEq α] [LawfulBEq α] {key : α} {entries : List (α × β)} :
    key ∈ entries.map Prod.fst ↔ (entries.lookup key).isSome = true := by
  rw [List.lookup_isSome_iff, List.mem_map]
  refine exists_congr fun entry => and_congr_right fun _ => ?_
  rw [beq_iff_eq, eq_comm]

theorem mem_map_fst_ofList [LawfulEqOrd α] [BEq α] [LawfulBEq α] {key : α}
    {entries : List (α × β)} :
    key ∈ (ofList entries).map Prod.fst ↔ key ∈ entries.map Prod.fst := by
  rw [mem_map_fst_iff, lookup_ofList, ← mem_map_fst_iff, List.map_reverse, List.mem_reverse]

/-- Ascending maps that store the same under each key are the same. -/
theorem ext_of_ascending [TransOrd α] [LawfulEqOrd α] [BEq α] [LawfulBEq α]
    {a b : List (α × β)} (ha : Ascending a) (hb : Ascending b)
    (h : ∀ key, a.lookup key = b.lookup key) : a = b := by
  have hmem (entry : α × β) : entry ∈ a ↔ entry ∈ b := by
    obtain ⟨key, value⟩ := entry
    rw [← lookup_eq_some_iff ha, ← lookup_eq_some_iff hb, h]
  have hperm : a.Perm b :=
    (List.perm_ext_iff_of_nodup (.of_map _ ha.nodup_keys) (.of_map _ hb.nodup_keys)).mpr hmem
  refine hperm.eq_of_pairwise ?_ ha hb
  intro first second _ _ hlt hgt
  rw [OrientedCmp.gt_of_lt hlt] at hgt
  cases hgt

/-- The order of entries with different keys does not count. -/
theorem ofList_eq_of_perm [TransOrd α] [LawfulEqOrd α] [BEq α] [LawfulBEq α]
    {entries others : List (α × β)} (h : (entries.map Prod.fst).Nodup)
    (hp : entries.Perm others) : ofList entries = ofList others := by
  have hn : (entries.reverse.map Prod.fst).Nodup := by
    rw [List.map_reverse]
    exact List.nodup_reverse.mpr h
  have hn' : (others.reverse.map Prod.fst).Nodup := by
    rw [List.map_reverse]
    exact List.nodup_reverse.mpr ((hp.map Prod.fst).nodup_iff.mp h)
  apply ext_of_ascending (ascending_ofList _) (ascending_ofList _)
  intro key
  rw [lookup_ofList, lookup_ofList]
  apply Option.ext
  intro value
  rw [lookup_eq_some_iff_of_nodup hn, lookup_eq_some_iff_of_nodup hn', List.mem_reverse,
    List.mem_reverse, hp.mem_iff]

theorem ofList_perm [TransOrd α] [LawfulEqOrd α] [BEq α] [LawfulBEq α] {entries : List (α × β)}
    (h : (entries.map Prod.fst).Nodup) : (ofList entries).Perm entries := by
  have hkept := (ascending_ofList entries).nodup_keys
  have hreverse : (entries.reverse.map Prod.fst).Nodup := by
    rw [List.map_reverse]
    exact List.nodup_reverse.mpr h
  refine (List.perm_ext_iff_of_nodup (.of_map _ hkept) (.of_map _ h)).mpr ?_
  rintro ⟨key, value⟩
  rw [← lookup_eq_some_iff_of_nodup hkept, lookup_ofList, lookup_eq_some_iff_of_nodup hreverse,
    List.mem_reverse]

/-- Of entries with one key the last one is enough. -/
theorem ofList_pwFilter [TransOrd α] [LawfulEqOrd α] [DecidableEq α] (entries : List (α × β)) :
    ofList (entries.pwFilter fun a b => a.1 ≠ b.1) = ofList entries := by
  apply ext_of_ascending (ascending_ofList _) (ascending_ofList _)
  intro key
  rw [lookup_ofList, lookup_ofList]
  induction entries with
  | nil => rfl
  | cons entry rest ih =>
    rw [List.reverse_cons, List.lookup_append, ← ih]
    by_cases h : ∀ later ∈ rest.pwFilter fun a b => a.1 ≠ b.1, entry.1 ≠ later.1
    · rw [List.pwFilter_cons_of_pos h, List.reverse_cons, List.lookup_append]
    · rw [List.pwFilter_cons_of_neg h]
      simp only [not_forall, ne_eq, not_not] at h
      obtain ⟨later, hm, hkey⟩ := h
      by_cases hk : key = entry.1
      · have hsome : (List.lookup key
            (rest.pwFilter fun a b => a.1 ≠ b.1).reverse).isSome = true := by
          rw [← mem_map_fst_iff, hk, hkey]
          exact List.mem_map_of_mem (List.mem_reverse.mpr hm)
        rw [Option.or_of_isSome hsome]
      · rw [List.lookup_cons, beq_false_of_ne hk, List.lookup_nil, Option.or_none]

section

variable {α' : Type} [Ord α'] {f : α → α'} {g : β → γ}

theorem map_insert {key : α} {value : β} {entries : List (α × β)}
    (h : ∀ entry ∈ entries, compare (f key) (f entry.1) = compare key entry.1) :
    (insert key value entries).map (fun entry => (f entry.1, g entry.2)) =
      insert (f key) (g value) (entries.map fun entry => (f entry.1, g entry.2)) := by
  induction entries with
  | nil => rfl
  | cons first rest ih =>
    have hrest := ih fun entry he => h entry (List.mem_cons_of_mem _ he)
    rw [List.map_cons, insert, insert, h first List.mem_cons_self]
    cases compare key first.1 with
    | lt => rfl
    | eq => rfl
    | gt => simp only [List.map_cons, hrest]

/-- Keys that keep their order can be changed before or after a map is built. -/
theorem map_ofList {entries : List (α × β)}
    (h : ∀ a ∈ entries, ∀ b ∈ entries, compare (f a.1) (f b.1) = compare a.1 b.1) :
    (ofList entries).map (fun entry => (f entry.1, g entry.2)) =
      ofList (entries.map fun entry => (f entry.1, g entry.2)) := by
  induction entries using List.reverseRecOn with
  | nil => rfl
  | append_singleton entries last ih =>
    obtain ⟨key, value⟩ := last
    have hmem : ∀ entry ∈ entries, entry ∈ entries ++ [(key, value)] :=
      fun entry he => List.mem_append_left _ he
    have hlast : (key, value) ∈ entries ++ [(key, value)] := by simp
    have hinsert : ∀ entry ∈ ofList entries, compare (f key) (f entry.1) = compare key entry.1 :=
      fun entry he => h (key, value) hlast entry (hmem entry (mem_of_mem_ofList he))
    rw [List.map_append, List.map_singleton, ofList_append_singleton, ofList_append_singleton,
      map_insert hinsert, ih fun a ha b hb => h a (hmem a ha) b (hmem b hb)]

end

end KeyPath.Assoc
