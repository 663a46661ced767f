import KeyPath.Proofs.Json.Part
import KeyPath.Proofs.Yaml.SameValue
/-!
# What JSON and YAML have in common

A JSON tree read as YAML has the same value, whatever keys names become. So has any YAML tree that
differs from it in the order of entries and in tags, as long as no object repeats a name.
-/

namespace KeyPath

namespace LoadOptions

variable (options : LoadOptions)

theorem keyOfName_injective : Function.Injective options.keyOfName := by
  intro a b h
  simp only [keyOfName] at h
  split at h
  · exact Key.sym.inj h
  · exact Key.str.inj h

end LoadOptions

namespace Json.Tree

mutual

/-- The YAML tree that shows what a JSON tree shows. -/
def asYaml : Tree → Yaml.Tree
  | null => .null
  | bool b => .bool b
  | number n => .number n
  | string text => .string text
  | array items => .sequence (asYamlItems items)
  | object members => .mapping (asYamlMembers members)

def asYamlItems : List Tree → List Yaml.Tree
  | [] => []
  | item :: rest => item.asYaml :: asYamlItems rest

def asYamlMembers : List (String × Tree) → List (Yaml.Tree × Yaml.Tree)
  | [] => []
  | (name, value) :: rest => (.string name, value.asYaml) :: asYamlMembers rest

end

/-- No object in a tree repeats a name. -/
def NamesDistinct (tree : Tree) : Prop :=
  ∀ members, Inside (object members) tree → (members.map Prod.fst).Nodup

theorem asYamlItems_eq_map (items : List Tree) : asYamlItems items = items.map asYaml := by
  induction items with
  | nil => rfl
  | cons item rest ih => simp [asYamlItems, ih]

theorem asYamlMembers_eq_map (members : List (String × Tree)) :
    asYamlMembers members =
      members.map fun member => (Yaml.Tree.string member.1, member.2.asYaml) := by
  induction members with
  | nil => rfl
  | cons member rest ih => simp [asYamlMembers, ih]

variable {options : LoadOptions}

theorem toValue_asYaml (tree : Tree) : tree.asYaml.toValue options = tree.toValue options := by
  induction tree using Tree.induction with
  | leaf tree harray hobject =>
    cases tree with
    | array items => exact absurd rfl (harray items)
    | object members => exact absurd rfl (hobject members)
    | _ => rfl
  | array items ih =>
    have hitems : (items.map asYaml).map (Yaml.Tree.toValue options) =
        items.map (toValue options) := by
      rw [List.map_map]
      exact List.map_congr_left ih
    simp only [asYaml, asYamlItems_eq_map, Yaml.Tree.toValue, Yaml.Tree.toValueItems_eq_map,
      toValue, toValueItems_eq_map, hitems]
  | object members ih =>
    -- as a key a string becomes what a name becomes
    have hmembers : ∀ member ∈ members,
        (options.keyOfValue (.str member.1), member.2.asYaml.toValue options) =
          (options.keyOfName member.1, member.2.toValue options) := by
      intro member hm
      rw [ih member hm]
      rfl
    simp only [asYaml, asYamlMembers_eq_map, Yaml.Tree.toValue, Yaml.Tree.toValueEntries_eq_map,
      toValue, toValueMembers_eq_map, List.map_map, Function.comp_def,
      List.map_congr_left hmembers]

private theorem exists_object_of_inside_asYaml {entries : List (Yaml.Tree × Yaml.Tree)}
    {tree : Tree} (h : Yaml.Inside (.mapping entries) tree.asYaml) :
    ∃ members, Inside (object members) tree ∧ asYamlMembers members = entries := by
  induction tree using Tree.induction with
  | leaf tree harray hobject =>
    cases tree with
    | array items => exact absurd rfl (harray items)
    | object members => exact absurd rfl (hobject members)
    | _ => cases h
  | array items ih =>
    cases h with
    | item hm hi =>
      rw [asYamlItems_eq_map] at hm
      obtain ⟨item, hitem, rfl⟩ := List.mem_map.mp hm
      obtain ⟨members, hin, he⟩ := ih item hitem hi
      exact ⟨members, .item hitem hin, he⟩
  | object members ih =>
    cases h with
    | here => exact ⟨members, .here, rfl⟩
    | key hm hi =>
      rw [asYamlMembers_eq_map] at hm
      obtain ⟨member, _, rfl⟩ := List.mem_map.mp hm
      cases hi
    | value hm hi =>
      rw [asYamlMembers_eq_map] at hm
      obtain ⟨member, hmember, rfl⟩ := List.mem_map.mp hm
      obtain ⟨others, hin, he⟩ := ih member hmember hi
      exact ⟨others, .member hmember hin, he⟩

theorem keysDistinct_asYaml {tree : Tree} (h : tree.NamesDistinct) :
    tree.asYaml.KeysDistinct options := by
  intro entries hi
  obtain ⟨members, hin, rfl⟩ := exists_object_of_inside_asYaml hi
  have hkeys : Yaml.Tree.keys options (asYamlMembers members) =
      (members.map Prod.fst).map options.keyOfName := by
    simp only [Yaml.Tree.keys, asYamlMembers_eq_map, List.map_map]
    rfl
  rw [hkeys]
  exact (h members hin).map options.keyOfName_injective

end Json.Tree

/-- Tags never show in a value. A YAML tree that shows, apart from its tags and the order of
entries, what a JSON tree without repeated names shows has the value of that tree. -/
theorem toValue_yaml_eq_json (options : LoadOptions) :
    (∀ other : Yaml.Tree, other.untag.toValue options = other.toValue options) ∧
    ∀ (tree : Json.Tree) (other : Yaml.Tree), tree.NamesDistinct →
      Yaml.Reordered tree.asYaml other.untag →
        other.toValue options = tree.toValue options := by
  refine ⟨Yaml.Tree.toValue_untag, ?_⟩
  intro tree other hn hr
  have hdistinct : tree.asYaml.KeysDistinct options := Json.Tree.keysDistinct_asYaml hn
  have hreordered := hr.toValue_eq hdistinct
  rw [← Yaml.Tree.toValue_untag, ← hreordered]
  exact Json.Tree.toValue_asYaml tree

/-- Tags around a key, in a sequence and around the whole, with the entries in another order. -/
theorem toValue_yaml_eq_json_tagged :
    let tree : Json.Tree := .object [("a", .array [.number (.integer 1)]), ("b", .null)]
    let other : Yaml.Tree := .tagged "!t" (.mapping
      [(.tagged "!k" (.tagged "!l" (.string "b")), .null),
        (.string "a", .sequence [.tagged "!i" (.number (.integer 1))])])
    tree.NamesDistinct ∧ Yaml.Reordered tree.asYaml other.untag ∧
      other.toValue ⟨true⟩ = tree.toValue ⟨true⟩ ∧
      other.toValue ⟨true⟩ = .hash [(.sym "a", .array [.int 1]), (.sym "b", .nil)] := by
  intro tree other
  have hn : tree.NamesDistinct := by
    intro members hi
    have hi : Json.Inside (.object members) (.object _) := hi
    cases hi with
    | here => decide
    | member hm hi =>
      rcases List.mem_cons.mp hm with heq | hm
      · cases heq
        cases hi with
        | item hm hi =>
          cases List.mem_singleton.mp hm
          cases hi
      · cases List.mem_singleton.mp hm
        cases hi
  have hr : Yaml.Reordered tree.asYaml other.untag :=
    .mapping (.swap _ _ _) (.cons (.same _) (.cons (.same _) .nil))
      (.cons (.same _) (.cons (.same _) .nil))
  exact ⟨hn, hr, (toValue_yaml_eq_json ⟨true⟩).2 tree other hn hr, rfl⟩

end KeyPath
