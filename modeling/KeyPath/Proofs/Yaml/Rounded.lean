import KeyPath.Proofs.Document.Agreement
import KeyPath.Proofs.Text.Numeral
import KeyPath.Proofs.Value.Members
/-!
# YAML trees with rounded numbers

Besides tags and the order of entries one thing about a YAML tree does not show in its value: an
integer of more than 64 bits is the floating point number that it is rounded to. A tree without
mappings shows everything else.
-/

namespace KeyPath

/-- An integer of more than 64 bits rounded to a floating point number. -/
def Number.rounded : Number → Number
  | integer n => if (Text.Numeral.toInt64? n).isSome then integer n else float (.ofInt n)
  | float x => float x

theorem Number.toValue_rounded (n : Number) : n.rounded.toValue = n.toValue := by
  cases n with
  | float x => rfl
  | integer n =>
    rw [rounded]
    cases hi : Text.Numeral.toInt64? n with
    | some i => rfl
    | none =>
      simp only [Option.isSome_none, Bool.false_eq_true, if_false, toValue, hi]

theorem Number.toJson_toValue (n : Number) : n.toValue.toJson = .number n.rounded := by
  cases n with
  | float x => rfl
  | integer n =>
    rw [toValue, rounded]
    cases hi : Text.Numeral.toInt64? n with
    | some i =>
      simp only [Value.toJson, Text.Numeral.toInt_of_toInt64? hi, Option.isSome_some, if_true]
    | none => rfl

namespace Yaml.Tree

variable {options : LoadOptions}

mutual

/-- Round the numbers of a tree, those in keys included. -/
def rounded : Tree → Tree
  | number n => number n.rounded
  | sequence items => sequence (roundedItems items)
  | mapping entries => mapping (roundedEntries entries)
  | tagged tag content => tagged tag (rounded content)
  | null => null
  | bool b => bool b
  | string text => string text

def roundedItems : List Tree → List Tree
  | [] => []
  | item :: rest => item.rounded :: roundedItems rest

def roundedEntries : List (Tree × Tree) → List (Tree × Tree)
  | [] => []
  | (key, value) :: rest => (key.rounded, value.rounded) :: roundedEntries rest

end

theorem roundedItems_eq_map (items : List Tree) : roundedItems items = items.map rounded := by
  induction items with
  | nil => rfl
  | cons item rest ih => simp [roundedItems, ih]

theorem roundedEntries_eq_map (entries : List (Tree × Tree)) :
    roundedEntries entries = entries.map fun entry => (entry.1.rounded, entry.2.rounded) := by
  induction entries with
  | nil => rfl
  | cons entry rest ih => simp [roundedEntries, ih]

theorem toValue_rounded (tree : Tree) : tree.rounded.toValue options = tree.toValue options := by
  induction tree using Tree.induction with
  | scalar tree hs =>
    cases tree with
    | number n => simp only [rounded, toValue, Number.toValue_rounded]
    | sequence | mapping | tagged => cases hs
    | _ => rfl
  | sequence items ih =>
    rw [rounded, roundedItems_eq_map]
    exact toValue_sequence_map ih
  | mapping entries ih =>
    rw [rounded, roundedEntries_eq_map]
    exact toValue_mapping_map ih
  | tagged tag content ih =>
    simp only [rounded, toValue]
    exact ih

/-- Whether no mapping occurs in a tree. -/
def MappingFree (tree : Tree) : Prop := ∀ entries, ¬Inside (mapping entries) tree

theorem asYaml_toJson_toValue {tree : Tree} (h : tree.MappingFree) :
    (tree.toValue options).toJson.asYaml = tree.untag.rounded := by
  induction tree using Tree.induction with
  | scalar tree hs =>
    cases tree with
    | number n => simp only [toValue, Number.toJson_toValue, Json.Tree.asYaml, untag, rounded]
    | sequence | mapping | tagged => cases hs
    | _ => rfl
  | sequence items ih =>
    have hitems : ∀ item ∈ items,
        (item.toValue options).toJson.asYaml = item.untag.rounded := fun item hm =>
      ih item hm fun entries hi => h entries (.item hm hi)
    simp only [toValue, toValueItems_eq_map, Value.toJson, Value.toJsonItems_eq_map,
      Json.Tree.asYaml, Json.Tree.asYamlItems_eq_map, untag, untagItems_eq_map, rounded,
      roundedItems_eq_map, List.map_map, Function.comp_def, List.map_congr_left hitems]
  | mapping entries => exact absurd .here (h entries)
  | tagged tag content ih =>
    simp only [toValue, untag]
    exact ih fun entries hi => h entries (.tagged hi)

theorem toValue_eq_of_rounded_eq {a b : Tree} (h : a.untag.rounded = b.untag.rounded) :
    a.toValue options = b.toValue options := by
  rw [← toValue_untag a, ← toValue_rounded a.untag, h, toValue_rounded, toValue_untag]

theorem rounded_eq_of_toValue_eq {a b : Tree} (ha : a.MappingFree) (hb : b.MappingFree)
    (h : a.toValue options = b.toValue options) : a.untag.rounded = b.untag.rounded := by
  have hvalue := congrArg (fun value => value.toJson.asYaml) h
  rwa [asYaml_toJson_toValue ha, asYaml_toJson_toValue hb] at hvalue

end Yaml.Tree

end KeyPath
