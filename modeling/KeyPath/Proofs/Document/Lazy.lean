import KeyPath.Json.Value
import KeyPath.Proofs.Assoc
import KeyPath.Proofs.Lookup.Walk
import KeyPath.Yaml.Value
/-!
# Lookups in unconverted documents

The keys of a path can be followed in a document as it was read, node by node, with only the node
at the end becoming a value. Converting the whole document first and following the keys in the
value that it becomes gives the same. JSON and YAML differ in how one node is seen, and in nothing
else: a tree of either kind becomes a value one layer of nodes at a time.
-/

namespace KeyPath

/-- One node of a document: a scalar, as the value that it becomes, or the parts of a collection,
those of a mapping with the keys that their names become. -/
inductive Layer (τ : Type) where
  | scalar (value : Value) (isScalar : value.isScalar = true)
  | sequence (items : List τ)
  | mapping (entries : List (Key × τ))

namespace Layer

variable {τ : Type}

/-- The part that a key leads to. A sequence takes integers, which may count from its end; of the
entries of a mapping with one key the last counts; a scalar takes no key. -/
def part? (layer : Layer τ) (key : Key) : Except DigError (Option τ) :=
  match layer with
  | scalar value _ => .error (.notDiggable value.typeName key)
  | sequence items =>
    match resolveIndex key items.length with
    | .ok place => .ok (place.bind fun position => items[position]?)
    | .error e => .error e
  | mapping entries => .ok (entries.reverse.lookup key)

def isNull : Layer τ → Bool
  | scalar value _ => value.isNil
  | _ => false

/-- The value of a node, given what its parts become. -/
def toValue (convert : τ → Value) : Layer τ → Value
  | scalar value _ => value
  | sequence items => .array (items.map convert)
  | mapping entries => .hash (Assoc.ofList (entries.map fun entry => (entry.1, convert entry.2)))

variable (convert : τ → Value)

private theorem isNil_toValue (layer : Layer τ) : (layer.toValue convert).isNil = layer.isNull := by
  cases layer <;> rfl

theorem object?_toValue (layer : Layer τ) : (layer.toValue convert).object? = none := by
  cases layer with
  | scalar value hs => exact object?_of_isScalar hs
  | sequence items => rfl
  | mapping entries => rfl

theorem index_toValue (layer : Layer τ) (key : Key) :
    (layer.toValue convert).index key = (layer.part? key).map (Option.map convert) := by
  cases layer with
  | scalar value hs => exact index_of_isScalar hs
  | sequence items =>
    rw [toValue, Value.index, part?, List.length_map]
    cases resolveIndex key items.length with
    | error e => rfl
    | ok place => cases place <;> simp [Except.map]
  | mapping entries =>
    rw [toValue, Value.index, Assoc.get?_eq_lookup, Assoc.lookup_ofList, ← List.map_reverse,
      Assoc.lookup_map]
    rfl

end Layer

/-- A kind of document trees: how a node is seen and which value it becomes. -/
structure TreeKind (τ : Type) where
  layer : τ → Layer τ
  toValue : τ → Value
  toValue_eq : ∀ node, toValue node = (layer node).toValue toValue

namespace TreeKind

variable {τ : Type} (kind : TreeKind τ)

/-- Follow keys from a node. Only the last node becomes a value; a null reached on the way, or at
the end, counts as nothing. -/
def follow : τ → List Key → DigResult
  | node, [] => .ok (.found (kind.toValue node))
  | node, key :: rest =>
    match (kind.layer node).part? key with
    | .error e => .error e
    | .ok none => .ok .absent
    | .ok (some part) =>
      if (kind.layer part).isNull then .ok .absent else follow part rest

/-- Follow a key path in a document tree. At least one key is needed. -/
def lookup (root : τ) (keys : List Key) : DigResult :=
  if keys.isEmpty then .error .noKeys else kind.follow root keys

private theorem isNil_toValue (node : τ) :
    (kind.toValue node).isNil = (kind.layer node).isNull := by
  rw [kind.toValue_eq, Layer.isNil_toValue]

theorem walk_toValue (node : τ) (keys : List Key)
    (h : keys = [] → (kind.layer node).isNull = false) :
    walk (kind.toValue node) keys = .settled (kind.follow node keys) := by
  induction keys generalizing node with
  | nil =>
    have hn : (kind.toValue node).isNil = false := (kind.isNil_toValue node).trans (h rfl)
    rw [walk, follow, Lookup.ofValue, hn]
    rfl
  | cons key rest ih =>
    have hi := Layer.index_toValue kind.toValue (kind.layer node) key
    have ho := Layer.object?_toValue kind.toValue (kind.layer node)
    rw [← kind.toValue_eq] at hi ho
    rw [walk, follow, ho, hi]
    cases (kind.layer node).part? key with
    | error e => rfl
    | ok found =>
      cases found with
      | none => rfl
      | some part =>
        simp only [Except.map, Option.map_some, kind.isNil_toValue]
        cases hn : (kind.layer part).isNull with
        | true => rfl
        | false => exact ih part fun _ => hn

theorem dig_toValue {m : Type → Type} [Monad m] (respond : ObjectRef → List Key → m DigResult)
    (root : τ) (keys : List Key) :
    dig respond (kind.toValue root) keys = pure (kind.lookup root keys) := by
  cases keys with
  | nil => rfl
  | cons key rest =>
    have hk : key :: rest ≠ [] := List.cons_ne_nil key rest
    exact digWith_of_settled _ hk (kind.walk_toValue root _ fun h => absurd h hk)

end TreeKind

theorem Number.isScalar_toValue (n : Number) : n.toValue.isScalar = true := by
  cases n with
  | float x => rfl
  | integer n =>
    rw [toValue]
    cases Text.Numeral.toInt64? n <;> rfl

/-- A node of a JSON tree. Names of members become keys. -/
def Json.Tree.layer (options : LoadOptions) : Tree → Layer Tree
  | null => .scalar .nil rfl
  | bool b => .scalar (.bool b) rfl
  | number n => .scalar n.toValue n.isScalar_toValue
  | string text => .scalar (.str text) rfl
  | array items => .sequence items
  | object members =>
    .mapping (members.map fun member => (options.keyOfName member.1, member.2))

/-- A node of a YAML tree. Tags are looked through. -/
def Yaml.Tree.layer (options : LoadOptions) : Tree → Layer Tree
  | null => .scalar .nil rfl
  | bool b => .scalar (.bool b) rfl
  | number n => .scalar n.toValue n.isScalar_toValue
  | string text => .scalar (.str text) rfl
  | sequence items => .sequence items
  | mapping entries =>
    .mapping (entries.map fun entry => (options.keyOfValue (entry.1.toValue options), entry.2))
  | tagged _ value => value.layer options

theorem Json.Tree.toValueItems_eq_map (options : LoadOptions) (items : List Tree) :
    toValueItems options items = items.map (toValue options) := by
  induction items with
  | nil => rfl
  | cons item rest ih => rw [toValueItems, ih, List.map_cons]

theorem Json.Tree.toValueMembers_eq_map (options : LoadOptions) (members : List (String × Tree)) :
    toValueMembers options members =
      members.map fun member => (options.keyOfName member.1, member.2.toValue options) := by
  induction members with
  | nil => rfl
  | cons member rest ih => rw [toValueMembers, ih, List.map_cons]

theorem Yaml.Tree.toValueItems_eq_map (options : LoadOptions) (items : List Tree) :
    toValueItems options items = items.map (toValue options) := by
  induction items with
  | nil => rfl
  | cons item rest ih => rw [toValueItems, ih, List.map_cons]

theorem Yaml.Tree.toValueEntries_eq_map (options : LoadOptions) (entries : List (Tree × Tree)) :
    toValueEntries options entries = entries.map fun entry =>
      (options.keyOfValue (entry.1.toValue options), entry.2.toValue options) := by
  induction entries with
  | nil => rfl
  | cons entry rest ih => rw [toValueEntries, ih, List.map_cons]

/-- JSON trees, with the keys that the options ask for. -/
def Json.Tree.kind (options : LoadOptions) : TreeKind Tree where
  layer := layer options
  toValue := toValue options
  toValue_eq node := by
    cases node with
    | array items => rw [toValue, toValueItems_eq_map, layer, Layer.toValue]
    | object members =>
      rw [toValue, toValueMembers_eq_map, layer, Layer.toValue, List.map_map]
      rfl
    | _ =>
      rw [toValue, layer]
      rfl

/-- YAML trees, with the keys that the options ask for. -/
def Yaml.Tree.kind (options : LoadOptions) : TreeKind Tree where
  layer := layer options
  toValue := toValue options
  toValue_eq := go
where
  /-- By the tags around a node. -/
  go (node : Tree) : node.toValue options = (node.layer options).toValue (toValue options) := by
    cases node with
    | sequence items => rw [toValue, toValueItems_eq_map, layer, Layer.toValue]
    | mapping entries =>
      rw [toValue, toValueEntries_eq_map, layer, Layer.toValue, List.map_map]
      rfl
    | tagged tag value => rw [toValue, layer, go value]
    | _ =>
      rw [toValue, layer]
      rfl

/-- A lookup in the value that a document becomes, whichever keys are asked for, is the lookup in
the document as it was read. -/
theorem dig_document_eq_lookup {m : Type → Type} [Monad m]
    (respond : ObjectRef → List Key → m DigResult) (options : LoadOptions) (keys : List Key) :
    (∀ root : Json.Tree, dig respond (root.toValue options) keys =
      pure ((Json.Tree.kind options).lookup root keys)) ∧
    ∀ root : Yaml.Tree, dig respond (root.toValue options) keys =
      pure ((Yaml.Tree.kind options).lookup root keys) :=
  ⟨fun root => (Json.Tree.kind options).dig_toValue respond root keys,
    fun root => (Yaml.Tree.kind options).dig_toValue respond root keys⟩

end KeyPath
