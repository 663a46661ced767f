import KeyPath.Yaml.Tree
/-!
# Parts of YAML trees

Keys are parts of a mapping as its values are, and what a tag stands on is a part of the tagged
tree.
-/

namespace KeyPath.Yaml

/-- A tree stands somewhere in another, perhaps in a key or under a tag. -/
inductive Inside : Tree → Tree → Prop where
  | here {tree : Tree} : Inside tree tree
  | item {tree item : Tree} {items : List Tree} :
      item ∈ items → Inside tree item → Inside tree (.sequence items)
  | key {tree : Tree} {entry : Tree × Tree} {entries : List (Tree × Tree)} :
      entry ∈ entries → Inside tree entry.1 → Inside tree (.mapping entries)
  | value {tree : Tree} {entry : Tree × Tree} {entries : List (Tree × Tree)} :
      entry ∈ entries → Inside tree entry.2 → Inside tree (.mapping entries)
  | tagged {tree content : Tree} {tag : String} :
      Inside tree content → Inside tree (.tagged tag content)

namespace Tree

/-- Whether a tree is neither a collection nor tagged. -/
def isScalar : Tree → Bool
  | sequence _ | mapping _ | tagged _ _ => false
  | _ => true

theorem sizeOf_lt_sequence {items : List Tree} {item : Tree} (hm : item ∈ items) :
    sizeOf item < sizeOf (sequence items) := by
  have hlt := List.sizeOf_lt_of_mem hm
  simp only [sequence.sizeOf_spec]
  omega

theorem sizeOf_lt_mapping {entries : List (Tree × Tree)} {entry : Tree × Tree}
    (hm : entry ∈ entries) :
    sizeOf entry.1 < sizeOf (mapping entries) ∧ sizeOf entry.2 < sizeOf (mapping entries) := by
  obtain ⟨key, value⟩ := entry
  have hlt := List.sizeOf_lt_of_mem hm
  simp only [Prod.mk.sizeOf_spec] at hlt
  simp only [mapping.sizeOf_spec]
  omega

/-- Sequences by their items, mappings by their keys and values, tagged trees by what the tag
stands on, and other trees one by one. -/
@[elab_as_elim]
theorem induction {motive : Tree → Prop}
    (scalar : ∀ tree, tree.isScalar = true → motive tree)
    (sequence : ∀ items, (∀ item ∈ items, motive item) → motive (sequence items))
    (mapping : ∀ entries, (∀ entry ∈ entries, motive entry.1 ∧ motive entry.2) →
      motive (mapping entries))
    (tagged : ∀ tag content, motive content → motive (tagged tag content))
    (tree : Tree) : motive tree := by
  cases tree with
  | sequence items =>
    exact sequence items fun item _ => induction scalar sequence mapping tagged item
  | mapping entries =>
    exact mapping entries fun entry _ =>
      ⟨induction scalar sequence mapping tagged entry.1,
        induction scalar sequence mapping tagged entry.2⟩
  | tagged tag content =>
    exact tagged tag content (induction scalar sequence mapping tagged content)
  | _ => exact scalar _ rfl
termination_by tree
decreasing_by
  · exact sizeOf_lt_sequence ‹_›
  · exact (sizeOf_lt_mapping ‹_›).1
  · exact (sizeOf_lt_mapping ‹_›).2
  · simp only [Tree.tagged.sizeOf_spec]
    omega

end Tree

end KeyPath.Yaml
