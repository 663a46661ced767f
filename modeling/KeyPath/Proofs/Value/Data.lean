import KeyPath.Proofs.Value.Members
import KeyPath.Report
/-!
# Writing values

A writer of JSON fails on keys that are no texts. The keys of a value are given to it as texts, so
that it makes of any value the tree of the value, and a report is always written.
-/

namespace KeyPath

open Assoc

namespace Json.Data

variable {α : Type} {data : α → Data} {tree : α → Tree}

private theorem toItems?_map {items : List α}
    (h : ∀ item ∈ items, (data item).toTree? = .ok (tree item)) :
    toItems? (items.map data) = .ok (items.map tree) := by
  induction items with
  | nil => rfl
  | cons item rest ih =>
    rw [List.forall_mem_cons] at h
    rw [List.map_cons, toItems?, h.1, ih h.2]
    rfl

private theorem toMembers?_map {members : List (String × α)}
    (h : ∀ member ∈ members, (data member.2).toTree? = .ok (tree member.2)) :
    toMembers? (members.map fun member => (.str member.1, data member.2)) =
      .ok (members.map fun member => (member.1, tree member.2)) := by
  induction members with
  | nil => rfl
  | cons member rest ih =>
    rw [List.forall_mem_cons] at h
    rw [List.map_cons, toMembers?, h.1, ih h.2]
    rfl

end Json.Data

namespace Value

private theorem toDataItems_eq_map (items : List Value) :
    toDataItems items = items.map toData := by
  induction items with
  | nil => rfl
  | cons item rest ih => rw [toDataItems, ih, List.map_cons]

private theorem toDataEntries_eq_map (entries : List (Key × Value)) :
    toDataEntries entries = entries.map fun entry => (entry.1.memberName, entry.2.toData) := by
  induction entries with
  | nil => rfl
  | cons entry rest ih => rw [toDataEntries, ih, List.map_cons]

private theorem ofList_map_snd {β : Type} (f : Value → β) (members : List (String × Value)) :
    ofList (members.map fun member => (member.1, f member.2)) =
      (ofList members).map fun member => (member.1, f member.2) :=
  (map_ofList (f := id) fun _ _ _ _ => rfl).symm

theorem toTree?_toData (value : Value) : value.toData.toTree? = .ok value.toJson := by
  induction value using Value.induction with
  | leaf value harray hhash =>
    cases value with
    | array items => exact absurd rfl (harray items)
    | hash entries => exact absurd rfl (hhash entries)
    | _ => rfl
  | array items ih =>
    rw [toData, toDataItems_eq_map, toJson, toJsonItems_eq_map, Json.Data.toTree?,
      Json.Data.toItems?_map ih]
    rfl
  | hash entries ih =>
    let members := entries.map fun entry => (entry.1.memberName, entry.2)
    have hdata : ofList (toDataEntries entries) =
        (ofList members).map fun member => (member.1, member.2.toData) := by
      rw [toDataEntries_eq_map, ← ofList_map_snd, List.map_map]
      rfl
    have hjson : ofList (toJsonEntries entries) =
        (ofList members).map fun member => (member.1, member.2.toJson) := by
      rw [toJsonEntries_eq_map, ← ofList_map_snd, List.map_map]
      rfl
    have hmembers : ∀ member ∈ ofList members,
        member.2.toData.toTree? = .ok member.2.toJson := by
      intro member hm
      obtain ⟨entry, he, rfl⟩ := List.mem_map.mp (mem_of_mem_ofList hm)
      exact ih entry he
    rw [toData, hdata, List.map_map, toJson, hjson, Json.Data.toTree?]
    change (Json.Data.toMembers? ((ofList members).map fun member =>
      (.str member.1, member.2.toData)) >>= _) = _
    rw [Json.Data.toMembers?_map hmembers]
    rfl

end Value

/-- A report is written whatever is found. -/
theorem Lookup.write_eq_ok (lookup : Lookup) (format : ReportFormat) :
    lookup.write format = .ok (report lookup format) := by
  cases format with
  | json =>
    rw [write, Value.toTree?_toData]
    rfl
  | inspect => rfl

end KeyPath
