import KeyPath.Proofs.Document.Loaded
import KeyPath.Proofs.Lookup.Symbols
/-!
# Documents with symbols for keys

Loading string keys as symbols is the same as loading them as strings and making them symbols in the
value, if the keys of a YAML document are scalars that have a key of their own kind. A lookup that
names symbols then has the result of the lookup that names strings.
-/

namespace KeyPath

namespace Layer

variable {τ : Type}

def mapKeys (f : Key → Key) : Layer τ → Layer τ
  | scalar value hs => scalar value hs
  | sequence items => sequence items
  | mapping entries => mapping (entries.map fun entry => (f entry.1, entry.2))

private theorem parts_mapKeys (f : Key → Key) (layer : Layer τ) :
    (layer.mapKeys f).parts = layer.parts := by
  cases layer <;> simp [mapKeys, parts]

private theorem toValue_congr {f g : τ → Value} {layer : Layer τ}
    (h : ∀ part ∈ layer.parts, f part = g part) : layer.toValue f = layer.toValue g := by
  cases layer with
  | scalar value hs => rfl
  | sequence items =>
    have hitems : items.map f = items.map g := List.map_congr_left h
    simp only [toValue, hitems]
  | mapping entries =>
    have hentries : ∀ entry ∈ entries, (entry.1, f entry.2) = (entry.1, g entry.2) := by
      intro entry he
      rw [h entry.2 (List.mem_map_of_mem he)]
    simp only [toValue, List.map_congr_left hentries]

private theorem symbolize_toValue (convert : τ → Value) {layer : Layer τ}
    (hk : ∀ key ∈ layer.keys, key.isSymbol = false) :
    (layer.toValue convert).symbolize =
      (layer.mapKeys Key.symbolize).toValue fun part => (convert part).symbolize := by
  cases layer with
  | scalar value hs => cases value <;> first | rfl | cases hs
  | sequence items =>
    simp only [toValue, mapKeys, Value.symbolize, Value.symbolizeItems_eq_map, List.map_map]
    rfl
  | mapping entries =>
    have hsymbols : ∀ a ∈ entries.map fun entry => (entry.1, convert entry.2),
        a.1.isSymbol = false := by
      intro a ha
      obtain ⟨entry, he, rfl⟩ := List.mem_map.mp ha
      exact hk entry.1 (List.mem_map_of_mem he)
    simp only [toValue, mapKeys, Value.symbolize, Value.symbolizeEntries_eq_map]
    rw [Assoc.map_ofList fun a ha b hb => Key.compare_symbolize (hsymbols a ha) (hsymbols b hb),
      Assoc.ofList_eq_self (Assoc.ascending_ofList _), List.map_map, List.map_map]
    rfl

end Layer

namespace TreeKind

variable {τ : Type} {plain symbols : TreeKind τ}

/-- Two kinds of trees that differ in having strings and symbols for the keys of each node differ in
the same way in the values of whole trees. -/
private theorem toValue_eq_symbolize {P : τ → Prop} (hwf : WellFounded plain.IsPart)
    (hpart : ∀ node part, P node → plain.IsPart part node → P part)
    (hkeys : ∀ node, ∀ key ∈ (plain.layer node).keys, key.isSymbol = false)
    (hlayer : ∀ node, P node → symbols.layer node = (plain.layer node).mapKeys Key.symbolize)
    {node : τ} (h : P node) : symbols.toValue node = (plain.toValue node).symbolize := by
  induction node using hwf.induction with
  | h node ih =>
    have hparts : ∀ part ∈ ((plain.layer node).mapKeys Key.symbolize).parts,
        symbols.toValue part = (plain.toValue part).symbolize := by
      intro part hp
      rw [Layer.parts_mapKeys] at hp
      exact ih part hp (hpart node part h hp)
    rw [symbols.toValue_eq, plain.toValue_eq, hlayer node h, Layer.toValue_congr hparts,
      Layer.symbolize_toValue plain.toValue (hkeys node)]

private theorem symbolizable_toValue (hwf : WellFounded plain.IsPart)
    (hkeys : ∀ node, ∀ key ∈ (plain.layer node).keys, key.isSymbol = false) (node : τ) :
    (plain.toValue node).everywhere Value.symbolizable = true := by
  apply everywhere_of_forall hwf
  intro node
  have hk := hkeys node
  rw [plain.toValue_eq, Value.symbolizable, Layer.keysAscend_toValue, Bool.true_and]
  cases hl : plain.layer node with
  | scalar value hs => cases value <;> first | rfl | cases hs
  | sequence items => rfl
  | mapping entries =>
    rw [hl] at hk
    simp only [Layer.toValue, Value.lacksSymbolKeys, List.all_eq_true, Bool.not_eq_true']
    intro entry he
    obtain ⟨given, hg, rfl⟩ := List.mem_map.mp (Assoc.mem_of_mem_ofList he)
    exact hk given.1 (List.mem_map_of_mem hg)

end TreeKind

private theorem Json.Tree.isSymbol_of_mem_keys (node : Tree) :
    ∀ key ∈ ((kind ⟨false⟩).layer node).keys, key.isSymbol = false := by
  cases node with
  | object members =>
    intro key hk
    simp only [kind, layer, Layer.keys, List.map_map, List.mem_map] at hk
    obtain ⟨member, _, rfl⟩ := hk
    rfl
  | _ => simp [kind, layer, Layer.keys]

private theorem Json.Tree.layer_symbols (node : Tree) :
    (kind ⟨true⟩).layer node = ((kind ⟨false⟩).layer node).mapKeys Key.symbolize := by
  cases node with
  | object members =>
    simp only [kind, layer, Layer.mapKeys, List.map_map]
    rfl
  | _ => rfl

namespace Yaml.Tree

/-- Whether a tree, its tags apart, is a scalar that has a key of its own kind. -/
def isPlainKey : Tree → Bool
  | null | bool _ | string _ => true
  | number (.integer n) => (Text.Numeral.toInt64? n).isSome
  | number (.float _) => false
  | tagged _ content => content.isPlainKey
  | sequence _ | mapping _ => false

/-- Everywhere in a tree the keys of a mapping are scalars that have a key of their own kind. -/
def HasPlainKeys (tree : Tree) : Prop :=
  ∀ entries, Inside (mapping entries) tree → ∀ entry ∈ entries, entry.1.isPlainKey = true

theorem toValue_ne_sym {options : LoadOptions} (tree : Tree) (name : String) :
    tree.toValue options ≠ .sym name := by
  induction tree using Tree.induction with
  | scalar tree hs =>
    cases tree with
    | number n =>
      rw [toValue]
      cases n with
      | float x => simp [Number.toValue]
      | integer n =>
        rw [Number.toValue]
        cases Text.Numeral.toInt64? n <;> simp
    | sequence | mapping | tagged => cases hs
    | _ => simp [toValue]
  | sequence items => simp [toValue]
  | mapping entries => simp [toValue]
  | tagged tag content ih =>
    rw [toValue]
    exact ih

private theorem isSymbol_keyOfValue (tree : Tree) :
    (LoadOptions.keyOfValue ⟨false⟩ (tree.toValue ⟨false⟩)).isSymbol = false := by
  have hne : ∀ name, tree.toValue ⟨false⟩ ≠ .sym name := toValue_ne_sym tree
  cases hv : tree.toValue ⟨false⟩ with
  | sym name => exact absurd hv (hne name)
  | _ => rfl

private theorem keyOfValue_symbols {tree : Tree} (h : tree.isPlainKey = true) :
    LoadOptions.keyOfValue ⟨true⟩ (tree.toValue ⟨true⟩) =
      (LoadOptions.keyOfValue ⟨false⟩ (tree.toValue ⟨false⟩)).symbolize := by
  induction tree using Tree.induction with
  | scalar tree hs =>
    cases tree with
    | number n =>
      cases n with
      | float x => cases h
      | integer n =>
        rw [isPlainKey] at h
        obtain ⟨i, hi⟩ := Option.isSome_iff_exists.mp h
        simp only [toValue, Number.toValue, hi]
        rfl
    | _ => first | rfl | cases hs
  | sequence items => cases h
  | mapping entries => cases h
  | tagged tag content ih =>
    simp only [toValue]
    exact ih h

private theorem isSymbol_of_mem_keys (node : Tree) :
    ∀ key ∈ ((kind ⟨false⟩).layer node).keys, key.isSymbol = false := by
  induction node using Tree.induction with
  | scalar node hs =>
    obtain ⟨value, hv, hl⟩ := exists_layer_eq_scalar hs
    simp [kind, hl, Layer.keys]
  | sequence items => simp [kind, layer, Layer.keys]
  | mapping entries =>
    intro key hk
    simp only [kind, layer, Layer.keys, List.map_map, List.mem_map] at hk
    obtain ⟨entry, _, rfl⟩ := hk
    exact isSymbol_keyOfValue entry.1
  | tagged tag content ih => exact ih

private theorem layer_symbols {node : Tree} (h : node.HasPlainKeys) :
    (kind ⟨true⟩).layer node = ((kind ⟨false⟩).layer node).mapKeys Key.symbolize := by
  induction node using Tree.induction with
  | scalar node hs =>
    obtain ⟨value, hv, hl⟩ := exists_layer_eq_scalar hs
    simp [kind, hl, Layer.mapKeys]
  | sequence items => rfl
  | mapping entries =>
    have hentries : ∀ entry ∈ entries,
        (LoadOptions.keyOfValue ⟨true⟩ (entry.1.toValue ⟨true⟩), entry.2) =
          ((LoadOptions.keyOfValue ⟨false⟩ (entry.1.toValue ⟨false⟩)).symbolize, entry.2) := by
      intro entry he
      rw [keyOfValue_symbols (h entries .here entry he)]
    simp only [kind, layer, Layer.mapKeys, List.map_map, List.map_congr_left hentries]
    rfl
  | tagged tag content ih => exact ih fun entries hi => h entries (.tagged hi)

theorem HasPlainKeys.part {part node : Tree} (h : node.HasPlainKeys)
    (hp : (kind ⟨false⟩).IsPart part node) : part.HasPlainKeys := by
  induction node using Tree.induction with
  | scalar node hs =>
    obtain ⟨value, hv, hl⟩ := exists_layer_eq_scalar hs
    simp [TreeKind.IsPart, kind, hl, Layer.parts] at hp
  | sequence items => exact fun entries hi => h entries (.item hp hi)
  | mapping entries =>
    simp only [TreeKind.IsPart, kind, layer, Layer.parts, List.map_map, List.mem_map] at hp
    obtain ⟨entry, he, rfl⟩ := hp
    exact fun inner hi => h inner (.value he hi)
  | tagged tag content ih => exact ih (fun entries hi => h entries (.tagged hi)) hp

end Yaml.Tree

theorem Loaded.symbolizable {root : Value} (h : Loaded ⟨false⟩ root) :
    root.everywhere Value.symbolizable = true := by
  cases h with
  | json tree =>
    exact TreeKind.symbolizable_toValue (Json.Tree.wellFounded_isPart _)
      Json.Tree.isSymbol_of_mem_keys tree
  | yaml tree =>
    exact TreeKind.symbolizable_toValue (Yaml.Tree.wellFounded_isPart _)
      Yaml.Tree.isSymbol_of_mem_keys tree

/-- Asking for symbols changes nothing but the string keys of hashes, in JSON always and in YAML
where keys are scalars with a key of their own kind. A lookup among symbols has the result of the
lookup among strings, with the same change in the value found or in the key of a failure. -/
theorem loaded_symbols {m : Type → Type} [Monad m]
    (respond : ObjectRef → List Key → m DigResult) :
    (∀ tree : Json.Tree, tree.toValue ⟨true⟩ = (tree.toValue ⟨false⟩).symbolize) ∧
    (∀ tree : Yaml.Tree, tree.HasPlainKeys →
      tree.toValue ⟨true⟩ = (tree.toValue ⟨false⟩).symbolize) ∧
    ∀ root, Loaded ⟨false⟩ root → ∀ keys : List Key, (∀ key ∈ keys, key.isSymbol = false) →
      ∃ result, dig respond root keys = pure result ∧
        dig respond root.symbolize (keys.map Key.symbolize) = pure result.symbolize := by
  refine ⟨?_, ?_, ?_⟩
  · intro tree
    exact TreeKind.toValue_eq_symbolize (P := fun _ => True) (Json.Tree.wellFounded_isPart _)
      (fun _ _ _ _ => trivial) Json.Tree.isSymbol_of_mem_keys
      (fun node _ => Json.Tree.layer_symbols node) trivial
  · intro tree h
    exact TreeKind.toValue_eq_symbolize (Yaml.Tree.wellFounded_isPart _)
      (fun _ _ => Yaml.Tree.HasPlainKeys.part) Yaml.Tree.isSymbol_of_mem_keys
      (fun _ => Yaml.Tree.layer_symbols) h
  · intro root h keys hk
    obtain ⟨result, hr⟩ := exists_dig_eq_symbolize h.objectFree h.symbolizable hk
    exact ⟨result, hr respond⟩

/-- A tagged key moves behind an integer, and a symbol is no index where its string was none. -/
theorem loaded_symbols_tagged :
    let tree : Yaml.Tree := .mapping
      [(.tagged "!k" (.string "a"), .sequence [.number (.integer 7)]),
        (.number (.integer 1), .null)]
    let respond : ObjectRef → List Key → Id DigResult := fun _ _ => .error .noKeys
    let keys : List Key := [.str "a", .str "b"]
    tree.HasPlainKeys ∧ (∀ key ∈ keys, key.isSymbol = false) ∧
      tree.toValue ⟨true⟩ = .hash [(.int 1, .nil), (.sym "a", .array [.int 7])] ∧
      dig respond (tree.toValue ⟨true⟩) [.sym "a", .sym "b"] =
        .error (.invalidIndex (.sym "b")) := by
  intro tree respond keys
  have hp : tree.HasPlainKeys := by
    intro entries hi
    have hi : Yaml.Inside (.mapping entries) (.mapping _) := hi
    cases hi with
    | here => decide
    | key hm hi =>
      rcases List.mem_cons.mp hm with rfl | hm
      · cases hi with
        | tagged hi => cases hi
      · cases List.mem_singleton.mp hm
        cases hi
    | value hm hi =>
      rcases List.mem_cons.mp hm with rfl | hm
      · cases hi with
        | item hm hi =>
          cases List.mem_singleton.mp hm
          cases hi
      · cases List.mem_singleton.mp hm
        cases hi
  have hk : ∀ key ∈ keys, key.isSymbol = false := by decide
  obtain ⟨_, hyaml, hdig⟩ := loaded_symbols respond
  have hvalue := hyaml tree hp
  obtain ⟨result, hr, hs⟩ := hdig _ (.yaml tree) keys hk
  have hresult : result = .error (.invalidIndex (.str "b")) := hr.symm.trans rfl
  refine ⟨hp, hk, hvalue.trans rfl, ?_⟩
  rw [hvalue]
  rw [hresult] at hs
  exact hs

end KeyPath
