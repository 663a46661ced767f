import KeyPath.Command.Run
import KeyPath.Proofs.Document.Agreement
/-!
# The order of entries in a document

Moving entries about, at any depth and inside keys as well, changes nothing that can be seen of a
document, as long as the entries of each mapping have different keys. A mapping that stands in a key
is seen in its inspect form, which has the entries in the order of their keys and not in that of the
text.
-/

namespace KeyPath

namespace Json

open KeyPath.Json.Tree

/-- A tree with the members of some of its objects in another order. -/
inductive Reordered : Tree → Tree → Prop where
  | same (tree : Tree) : Reordered tree tree
  | array {items others : List Tree} :
      List.Forall₂ Reordered items others → Reordered (.array items) (.array others)
  | object {members between others : List (String × Tree)} : members.Perm between →
      List.Forall₂ (fun a b => a.1 = b.1) between others →
      List.Forall₂ (fun a b => Reordered a.2 b.2) between others →
      Reordered (.object members) (.object others)

theorem Reordered.asYaml {tree other : Tree} (h : Reordered tree other) :
    Yaml.Reordered tree.asYaml other.asYaml := by
  induction tree using Tree.induction generalizing other with
  | leaf tree harray hobject =>
    cases h with
    | same => exact .same _
    | array => exact absurd rfl (harray _)
    | object => exact absurd rfl (hobject _)
  | array items ih =>
    cases h with
    | same => exact .same _
    | array hitems =>
      rw [Tree.asYaml, Tree.asYaml, asYamlItems_eq_map, asYamlItems_eq_map]
      exact .sequence (Yaml.forall₂_map hitems fun item hm _ h => ih item hm h)
  | object members ih =>
    cases h with
    | same => exact .same _
    | object hperm hnames hvalues =>
      rw [Tree.asYaml, Tree.asYaml, asYamlMembers_eq_map, asYamlMembers_eq_map]
      refine .mapping (hperm.map _) (Yaml.forall₂_map hnames ?_) (Yaml.forall₂_map hvalues ?_)
      · intro member _ other hname
        rw [hname]
        exact .same _
      · exact fun member hm _ h => ih member (hperm.mem_iff.mpr hm) h

theorem Reordered.toValue_eq {options : LoadOptions} {tree other : Tree} (h : Reordered tree other)
    (hn : tree.NamesDistinct) : tree.toValue options = other.toValue options := by
  have hdistinct : tree.asYaml.KeysDistinct options := keysDistinct_asYaml hn
  have hyaml := h.asYaml.toValue_eq hdistinct
  rwa [toValue_asYaml, toValue_asYaml] at hyaml

end Json

/-- Two roots of documents that are the same, and so is whatever is found in them or printed of
them. -/
structure Value.Indistinguishable (root other : Value) : Prop where
  eq : root = other
  dig : ∀ keys, Command.digDocument root keys = Command.digDocument other keys
  inspect : root.inspect = other.inspect
  jsonText : root.jsonText = other.jsonText
  prettyJsonText : root.prettyJsonText = other.prettyJsonText

private theorem Value.Indistinguishable.of_eq {root other : Value} (h : root = other) :
    root.Indistinguishable other := by
  subst h
  exact ⟨rfl, fun _ => rfl, rfl, rfl, rfl⟩

/-- The order of entries does not show, whether keys are loaded as strings or as symbols. In YAML
the entries of each mapping need different keys, also where the mapping stands in a key. In JSON the
members of each object need different names. -/
theorem indistinguishable_of_reordered (options : LoadOptions) :
    (∀ tree other : Yaml.Tree, Yaml.Reordered tree other → tree.KeysDistinct options →
      (tree.toValue options).Indistinguishable (other.toValue options)) ∧
    ∀ tree other : Json.Tree, Json.Reordered tree other → tree.NamesDistinct →
      (tree.toValue options).Indistinguishable (other.toValue options) :=
  ⟨fun _ _ h hd => .of_eq (h.toValue_eq hd), fun _ _ h hn => .of_eq (h.toValue_eq hn)⟩

/-- The entries of a mapping, of another one in its key and of a third below it change places, and
so do the members of an object in an array. -/
theorem indistinguishable_of_reordered_nested :
    let below : List (Yaml.Tree × Yaml.Tree) :=
      [(.number (.integer 2), .null), (.null, .bool true)]
    let inKey : List (Yaml.Tree × Yaml.Tree) := [(.string "b", .null), (.string "a", .bool true)]
    let tree : Yaml.Tree := .mapping
      [(.tagged "!k" (.mapping inKey), .sequence [.mapping below]), (.string "y", .null)]
    let other : Yaml.Tree := .mapping
      [(.string "y", .null),
        (.tagged "!k" (.mapping inKey.reverse), .sequence [.mapping below.reverse])]
    let members : List (String × Json.Tree) := [("b", .null), ("a", .string "x")]
    let json : Json.Tree := .array [.object members]
    let json' : Json.Tree := .array [.object members.reverse]
    (Yaml.Reordered tree other ∧ tree.KeysDistinct ⟨true⟩ ∧
      (tree.toValue ⟨true⟩).Indistinguishable (other.toValue ⟨true⟩) ∧
      other.toValue ⟨true⟩ = .hash [(.str "\x7b:a=>true, :b=>nil\x7d",
        .array [.hash [(.nil, .bool true), (.int 2, .nil)]]), (.sym "y", .nil)]) ∧
    Json.Reordered json json' ∧ json.NamesDistinct ∧
      (json.toValue ⟨true⟩).Indistinguishable (json'.toValue ⟨true⟩) := by
  intro below inKey tree other members json json'
  have hr : Yaml.Reordered tree other :=
    .mapping (.swap _ _ _)
      (.cons (.same _) (.cons (.tagged (.mapping (.swap _ _ _)
        (.cons (.same _) (.cons (.same _) .nil)) (.cons (.same _) (.cons (.same _) .nil)))) .nil))
      (.cons (.same _) (.cons (.sequence (.cons (.mapping (.swap _ _ _)
        (.cons (.same _) (.cons (.same _) .nil)) (.cons (.same _) (.cons (.same _) .nil))) .nil))
          .nil))
  have hbelow : (Yaml.Tree.mapping below).KeysDistinct ⟨true⟩ := by
    refine .mapping (by decide) ?_
    rw [List.forall_mem_cons, List.forall_mem_singleton]
    exact ⟨⟨.scalar rfl, .scalar rfl⟩, .scalar rfl, .scalar rfl⟩
  have hkey : (Yaml.Tree.mapping inKey).KeysDistinct ⟨true⟩ := by
    refine .mapping (by decide) ?_
    rw [List.forall_mem_cons, List.forall_mem_singleton]
    exact ⟨⟨.scalar rfl, .scalar rfl⟩, .scalar rfl, .scalar rfl⟩
  have hd : tree.KeysDistinct ⟨true⟩ := by
    refine .mapping (by decide) ?_
    rw [List.forall_mem_cons, List.forall_mem_singleton]
    refine ⟨⟨.tagged hkey, .sequence ?_⟩, .scalar rfl, .scalar rfl⟩
    rwa [List.forall_mem_singleton]
  have hj : Json.Reordered json json' :=
    .array (.cons (.object (.swap _ _ _) (.cons rfl (.cons rfl .nil))
      (.cons (.same _) (.cons (.same _) .nil))) .nil)
  have hn : json.NamesDistinct := by
    intro entries hi
    have hi : Json.Inside (.object entries) (.array _) := hi
    cases hi with
    | item hm hi =>
      cases List.mem_singleton.mp hm
      cases hi with
      | here => decide
      | member hm hi =>
        rcases List.mem_cons.mp hm with heq | hm
        · cases heq
          cases hi
        · cases List.mem_singleton.mp hm
          cases hi
  obtain ⟨hyaml, hjson⟩ := indistinguishable_of_reordered ⟨true⟩
  exact ⟨⟨hr, hd, hyaml tree other hr hd, by rfl⟩, hj, hn, hjson json json' hj hn⟩

end KeyPath
