import KeyPath.Json.Basic
/-!
# Parts of JSON trees
-/

namespace KeyPath.Json

/-- A tree stands somewhere in another. -/
inductive Inside : Tree → Tree → Prop where
  | here {tree : Tree} : Inside tree tree
  | item {tree item : Tree} {items : List Tree} :
      item ∈ items → Inside tree item → Inside tree (.array items)
  | member {tree content : Tree} {name : String} {members : List (String × Tree)} :
      (name, content) ∈ members → Inside tree content → Inside tree (.object members)

namespace Tree

theorem sizeOf_lt_array {items : List Tree} {item : Tree} (hm : item ∈ items) :
    sizeOf item < sizeOf (array items) := by
  have hlt := List.sizeOf_lt_of_mem hm
  rw [array.sizeOf_spec]
  omega

theorem sizeOf_lt_object {members : List (String × Tree)} {name : String} {content : Tree}
    (hm : (name, content) ∈ members) : sizeOf content < sizeOf (object members) := by
  have hlt := List.sizeOf_lt_of_mem hm
  rw [Prod.mk.sizeOf_spec] at hlt
  rw [object.sizeOf_spec]
  omega

/-- Arrays by their items, objects by their members, and other trees one by one. -/
@[elab_as_elim]
theorem induction {motive : Tree → Prop}
    (leaf : ∀ tree, (∀ items, tree ≠ array items) → (∀ members, tree ≠ object members) →
      motive tree)
    (array : ∀ items, (∀ item ∈ items, motive item) → motive (array items))
    (object : ∀ members, (∀ member ∈ members, motive member.2) → motive (object members))
    (tree : Tree) : motive tree := by
  cases tree with
  | array items => exact array items fun item _ => induction leaf array object item
  | object members => exact object members fun member _ => induction leaf array object member.2
  | _ => exact leaf _ nofun nofun
termination_by tree
decreasing_by
  · exact sizeOf_lt_array ‹_›
  · exact sizeOf_lt_object ‹_›

end Tree

end KeyPath.Json
