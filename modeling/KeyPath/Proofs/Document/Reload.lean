import KeyPath.Proofs.Document.Loaded
import KeyPath.Proofs.Document.RoundTrip
import KeyPath.Proofs.Json.Depth
/-!
# Reading back parts of documents

A JSON document in which all numbers are integers of 64 bits is a value of JSON's own kinds, nested
no deeper than a text may be. Every part of it is such a value as well, so that it is read back from
the text that is printed for it.
-/

namespace KeyPath

open Json

private theorem LoadOptions.isName_keyOfName (options : LoadOptions) (name : String) :
    options.isName (options.keyOfName name) = true := by
  rw [keyOfName]
  split
  · next h => exact h
  · next h => simpa [isName] using h

namespace Json

private theorem Nested.depth_toValue_le {levels : Nat} {tree : Tree} (h : Nested levels tree)
    (options : LoadOptions) : (tree.toValue options).depth ≤ levels := by
  induction h with
  | @leaf levels tree harray hobject =>
    cases tree with
    | array items => exact absurd rfl (harray items)
    | object members => exact absurd rfl (hobject members)
    | number n =>
      rw [Tree.toValue, Value.depth_of_isScalar n.isScalar_toValue]
      exact Nat.zero_le levels
    | _ => exact Nat.zero_le levels
  | array _ ih =>
    rw [Tree.toValue, Tree.toValueItems_eq_map, Value.depth]
    refine Nat.succ_le_succ (Value.depthItems_le_iff.mpr ?_)
    intro value hm
    obtain ⟨item, hi, rfl⟩ := List.mem_map.mp hm
    exact ih item hi
  | object _ ih =>
    rw [Tree.toValue, Tree.toValueMembers_eq_map, Value.depth]
    refine Nat.succ_le_succ (Value.depthEntries_le_iff.mpr ?_)
    intro entry hm
    obtain ⟨member, hi, rfl⟩ := List.mem_map.mp (Assoc.mem_of_mem_ofList hm)
    exact ih member hi

namespace Tree

/-- Whether all numbers in a tree are integers of 64 bits. -/
def IsIntegral (tree : Tree) : Prop :=
  ∀ n, Inside (.number n) tree → ∃ i : Int64, n = .integer i.toInt

variable {options : LoadOptions} {tree : Tree}

theorem IsIntegral.part {part : Tree} (h : tree.IsIntegral)
    (hp : (kind options).IsPart part tree) : part.IsIntegral := by
  intro n hn
  rcases isPart_cases hp with ⟨items, rfl, hm⟩ | ⟨name, members, rfl, hm⟩
  · exact h n (.item hm hn)
  · exact h n (.member hm hn)

theorem IsIntegral.isJsonShaped (h : tree.IsIntegral) :
    (tree.toValue options).isJsonShaped options = true := by
  cases tree with
  | number n =>
    obtain ⟨i, rfl⟩ := h n .here
    rw [toValue, Number.toValue, Text.Numeral.toInt64?_toInt]
    rfl
  | object members =>
    rw [toValue, toValueMembers_eq_map, Value.isJsonShaped, List.all_eq_true]
    intro entry hm
    obtain ⟨member, _, rfl⟩ := List.mem_map.mp (Assoc.mem_of_mem_ofList hm)
    exact options.isName_keyOfName member.1
  | _ => rfl

private theorem IsIntegral.everywhere_isJsonShaped (h : tree.IsIntegral) (options : LoadOptions) :
    (tree.toValue options).everywhere (Value.isJsonShaped options) = true :=
  TreeKind.everywhere_toValue (wellFounded_isPart options) (fun _ _ => IsIntegral.part)
    (fun _ => IsIntegral.isJsonShaped) h

/-- What stands anywhere in a document is read back from its printed text. -/
theorem IsIntegral.exists_reads_part (h : tree.IsIntegral) (hd : Nested maxDepth tree)
    {path : List Key} {value : Value} (ha : Addresses (tree.toValue options) path value) :
    ∃ part : Tree, Reads (readValue maxDepth) (value.toJson.pretty 0) part ∧
      part.toValue options = value := by
  have hshape := ha.everywhere (h.everywhere_isJsonShaped options)
  have hordered := ha.everywhere (TreeKind.ordered_toValue (wellFounded_isPart options) tree)
  have hdepth := Nat.le_trans ha.depth_le (hd.depth_toValue_le options)
  have hreads := Value.reads_toJson hdepth fun _ => Value.isFinite_of_isJsonShaped hshape
  exact ⟨_, hreads.2, Value.toValue_asWritten_toJson ⟨value, hordered⟩ hshape⟩

end Tree

end Json

end KeyPath
