import KeyPath.Yaml.Node
/-!
# Anchors

In the order of the text each anchor gets a number: how many different names were in use before
it. A reference means the number that its name has at that point. Of nodes with one number the
last one counts, wherever the reference stands.
-/

namespace KeyPath.Yaml

namespace Node

/-- The anchor names in use with their numbers, and the numbers given so far, the last first. -/
structure Labels where
  names : List (List Char × Nat)
  given : List Nat
  deriving Inhabited

namespace Labels

def count (labels : Labels) : Nat := (labels.names.map Prod.fst).eraseDups.length

def note (labels : Labels) (properties : Properties) : Labels :=
  match properties.anchor with
  | none => labels
  | some name => ⟨(name, labels.count) :: labels.names, labels.count :: labels.given⟩

end Labels

abbrev Numbered := Node Nat

mutual

/-- Replace names by numbers; an unknown name is an error. -/
def number? : Written → Labels → Option (Numbered × Labels)
  | reference name, labels => do return (reference (← labels.names.lookup name), labels)
  | scalar properties text plain, labels =>
    some (scalar properties text plain, labels.note properties)
  | sequence properties items, labels => do
    let (items, labels) ← numberItems? items (labels.note properties)
    return (sequence properties items, labels)
  | mapping properties entries, labels => do
    let (entries, labels) ← numberEntries? entries (labels.note properties)
    return (mapping properties entries, labels)

def numberItems? : List Written → Labels → Option (List Numbered × Labels)
  | [], labels => some ([], labels)
  | item :: rest, labels => do
    let (item, labels) ← number? item labels
    let (rest, labels) ← numberItems? rest labels
    return (item :: rest, labels)

def numberEntries? :
    List (Written × Written) → Labels → Option (List (Numbered × Numbered) × Labels)
  | [], labels => some ([], labels)
  | (key, value) :: rest, labels => do
    let (key, labels) ← number? key labels
    let (value, labels) ← number? value labels
    let (rest, labels) ← numberEntries? rest labels
    return ((key, value) :: rest, labels)

end

variable {ρ : Type}

def ifAnchored (properties : Properties) (node : Node ρ) : List (Node ρ) :=
  if properties.anchor.isSome then [node] else []

mutual

/-- The nodes with an anchor in the order of the text. -/
def anchored : Node ρ → List (Node ρ)
  | reference _ => []
  | scalar properties text plain => ifAnchored properties (scalar properties text plain)
  | sequence properties items =>
    ifAnchored properties (sequence properties items) ++ anchoredItems items
  | mapping properties entries =>
    ifAnchored properties (mapping properties entries) ++ anchoredEntries entries

def anchoredItems : List (Node ρ) → List (Node ρ)
  | [] => []
  | item :: rest => item.anchored ++ anchoredItems rest

def anchoredEntries : List (Node ρ × Node ρ) → List (Node ρ)
  | [] => []
  | (key, value) :: rest => key.anchored ++ value.anchored ++ anchoredEntries rest

end

mutual

/-- The number of marks that a node consists of: one for a scalar or a reference, two for a
collection besides its parts. -/
def markCount : Node ρ → Nat
  | reference _ => 1
  | scalar _ _ _ => 1
  | sequence _ items => 2 + markCountItems items
  | mapping _ entries => 2 + markCountEntries entries

def markCountItems : List (Node ρ) → Nat
  | [] => 0
  | item :: rest => item.markCount + markCountItems rest

def markCountEntries : List (Node ρ × Node ρ) → Nat
  | [] => 0
  | (key, value) :: rest => key.markCount + value.markCount + markCountEntries rest

end

end Node

/-- A document: its node, and the node that each number means. -/
structure Anchored where
  root : Node.Numbered
  targets : List (Nat × Node.Numbered)

def Anchored.ofNode? (node : Node.Written) : Option Anchored := do
  let (root, labels) ← node.number? ⟨[], []⟩
  return ⟨root, (labels.given.reverse.zip root.anchored).reverse⟩

end KeyPath.Yaml
