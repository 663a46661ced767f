import KeyPath.Document.Basic
import KeyPath.Proofs.Document.Lazy
import KeyPath.Proofs.Json.Part
import KeyPath.Proofs.Value.Members
import KeyPath.Proofs.Yaml.Part
/-!
# Values of documents

The parts of a node are the nodes that keys lead to. What is true of the value of every node of a
document is true everywhere in the value of the document. So the value of a document holds no
objects, and the keys of its hashes ascend.
-/

namespace KeyPath

namespace Layer

variable {τ : Type}

/-- The nodes inside a node. -/
def parts : Layer τ → List τ
  | scalar _ _ => []
  | sequence items => items
  | mapping entries => entries.map Prod.snd

/-- The keys of a mapping. -/
def keys : Layer τ → List Key
  | mapping entries => entries.map Prod.fst
  | _ => []

theorem keysAscend_toValue (convert : τ → Value) (layer : Layer τ) :
    (layer.toValue convert).keysAscend = true := by
  cases layer with
  | scalar value hs => cases value <;> first | rfl | cases hs
  | sequence items => rfl
  | mapping entries => exact decide_eq_true (Assoc.ascending_ofList _)

end Layer

namespace TreeKind

variable {τ : Type} {kind : TreeKind τ}

def IsPart (kind : TreeKind τ) (part node : τ) : Prop := part ∈ (kind.layer node).parts

/-- A test that passes on the values of all nodes of a document, whatever tells those nodes from
others, passes everywhere in the value of the document. -/
theorem everywhere_toValue {test : Value → Bool} {P : τ → Prop} (hwf : WellFounded kind.IsPart)
    (hpart : ∀ node part, P node → kind.IsPart part node → P part)
    (htest : ∀ node, P node → test (kind.toValue node) = true) {node : τ} (h : P node) :
    (kind.toValue node).everywhere test = true := by
  induction node using hwf.induction with
  | h node ih =>
    have hnode := htest node h
    have hparts : ∀ part, kind.IsPart part node →
        (kind.toValue part).everywhere test = true :=
      fun part hp => ih part hp (hpart node part h hp)
    rw [kind.toValue_eq] at hnode ⊢
    simp only [IsPart] at hparts
    cases hl : kind.layer node with
    | scalar value hs =>
      rw [hl] at hnode
      simp only [Layer.toValue] at hnode ⊢
      rwa [Value.everywhere_of_isScalar hs]
    | sequence items =>
      rw [hl] at hnode hparts
      simp only [Layer.toValue, Value.everywhere, Bool.and_eq_true] at hnode ⊢
      refine ⟨hnode, Value.everywhereItems_iff.mpr ?_⟩
      intro item hm
      obtain ⟨part, hp, rfl⟩ := List.mem_map.mp hm
      exact hparts part hp
    | mapping entries =>
      rw [hl] at hnode hparts
      simp only [Layer.toValue, Value.everywhere, Bool.and_eq_true] at hnode ⊢
      refine ⟨hnode, Value.everywhereEntries_iff.mpr ?_⟩
      intro entry hm
      -- an entry that is kept is one of those given
      obtain ⟨given, hg, rfl⟩ := List.mem_map.mp (Assoc.mem_of_mem_ofList hm)
      exact hparts given.2 (List.mem_map_of_mem hg)

theorem everywhere_of_forall {test : Value → Bool} (hwf : WellFounded kind.IsPart)
    (htest : ∀ node, test (kind.toValue node) = true) (node : τ) :
    (kind.toValue node).everywhere test = true :=
  everywhere_toValue hwf (fun _ _ _ _ => trivial) (fun node _ => htest node) trivial

private theorem objectFree_toValue (hwf : WellFounded kind.IsPart) (node : τ) :
    (kind.toValue node).objectFree = true := by
  apply everywhere_of_forall hwf
  intro node
  rw [kind.toValue_eq, Value.isPlain, Layer.object?_toValue]
  rfl

theorem ordered_toValue (hwf : WellFounded kind.IsPart) (node : τ) :
    (kind.toValue node).ordered = true := by
  apply everywhere_of_forall hwf
  intro node
  rw [kind.toValue_eq]
  exact Layer.keysAscend_toValue kind.toValue (kind.layer node)

end TreeKind

namespace Json.Tree

variable {options : LoadOptions} {part node : Tree}

theorem isPart_cases (hp : (kind options).IsPart part node) :
    (∃ items, node = array items ∧ part ∈ items) ∨
      ∃ name members, node = object members ∧ (name, part) ∈ members := by
  cases node with
  | array items => exact Or.inl ⟨items, rfl, hp⟩
  | object members =>
    simp only [TreeKind.IsPart, kind, layer, Layer.parts, List.map_map, List.mem_map] at hp
    obtain ⟨⟨name, content⟩, hm, rfl⟩ := hp
    exact Or.inr ⟨name, members, rfl, hm⟩
  | _ => cases hp

theorem wellFounded_isPart (options : LoadOptions) : WellFounded (kind options).IsPart := by
  apply Subrelation.wf _ (measure (sizeOf : Tree → Nat)).wf
  intro part node hp
  rcases isPart_cases hp with ⟨items, rfl, hm⟩ | ⟨name, members, rfl, hm⟩
  · exact sizeOf_lt_array hm
  · exact sizeOf_lt_object hm

end Json.Tree

namespace Yaml.Tree

theorem exists_layer_eq_scalar {node : Tree} (hs : node.isScalar = true) :
    ∃ value hv, ∀ options, node.layer options = .scalar value hv := by
  cases node with
  | sequence | mapping | tagged => cases hs
  | _ => exact ⟨_, _, fun _ => rfl⟩

private theorem sizeOf_lt_of_mem_parts {options : LoadOptions} {part node : Tree}
    (hp : part ∈ (node.layer options).parts) : sizeOf part < sizeOf node := by
  induction node using Tree.induction with
  | scalar node hs =>
    obtain ⟨value, hv, hl⟩ := exists_layer_eq_scalar hs
    rw [hl] at hp
    cases hp
  | sequence items => exact sizeOf_lt_sequence hp
  | mapping entries =>
    simp only [layer, Layer.parts, List.map_map, List.mem_map] at hp
    obtain ⟨entry, hm, rfl⟩ := hp
    exact (sizeOf_lt_mapping hm).2
  | tagged tag content ih =>
    have hlt := ih hp
    simp only [tagged.sizeOf_spec]
    omega

theorem wellFounded_isPart (options : LoadOptions) : WellFounded (kind options).IsPart :=
  Subrelation.wf sizeOf_lt_of_mem_parts (measure (sizeOf : Tree → Nat)).wf

end Yaml.Tree

/-- The values that documents become. -/
inductive Loaded (options : LoadOptions) : Value → Prop where
  | json (tree : Json.Tree) : Loaded options (tree.toValue options)
  | yaml (tree : Yaml.Tree) : Loaded options (tree.toValue options)

namespace Loaded

variable {options : LoadOptions} {root : Value}

theorem objectFree (h : Loaded options root) : root.objectFree = true := by
  cases h with
  | json tree => exact TreeKind.objectFree_toValue (Json.Tree.wellFounded_isPart options) tree
  | yaml tree => exact TreeKind.objectFree_toValue (Yaml.Tree.wellFounded_isPart options) tree

theorem ordered (h : Loaded options root) : root.ordered = true := by
  cases h with
  | json tree => exact TreeKind.ordered_toValue (Json.Tree.wellFounded_isPart options) tree
  | yaml tree => exact TreeKind.ordered_toValue (Yaml.Tree.wellFounded_isPart options) tree

theorem of_parseText [Yaml.Wording] {format : DocumentFormat} {text : String}
    (h : Document.parseText format options text = .ok root) : Loaded options root := by
  cases format with
  | json =>
    rw [Document.parseText] at h
    cases ht : Json.Tree.ofChars text.toList with
    | error fault =>
      rw [ht] at h
      cases h
    | ok tree =>
      rw [ht] at h
      cases h
      exact .json tree
  | yaml =>
    rw [Document.parseText] at h
    cases ht : Yaml.Tree.ofChars? text.toList with
    | none =>
      rw [ht] at h
      cases h
    | some tree =>
      rw [ht] at h
      cases h
      exact .yaml tree

end Loaded

end KeyPath
