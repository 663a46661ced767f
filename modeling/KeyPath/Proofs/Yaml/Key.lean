import KeyPath.Proofs.Document.Symbols
import KeyPath.Proofs.Value.Inspect
/-!
# Keys that values become

A floating point number, an array and a hash have no key of their own kind and share the keys of
strings, each under its inspect form. Inspect forms tell the values of documents apart, so that two
values have one key if they are the same, or if one of them is a string that spells the other.
-/

namespace KeyPath

namespace Value

/-- Whether a value has no key of its own kind. -/
def lacksKey : Value → Bool
  | float _ | array _ | hash _ => true
  | _ => false

/-- A string that is the inspect form of a value without a key of its own kind. -/
def Spells (a b : Value) : Prop := b.lacksKey = true ∧ a = str b.inspect

/-- Two values are the same, or one of them spells the other. -/
def Collides (a b : Value) : Prop := a = b ∨ a.Spells b ∨ b.Spells a

variable {options : LoadOptions} {a b : Value}

private theorem keyOfValue_of_lacksKey (h : a.lacksKey = true) :
    options.keyOfValue a = .str a.inspect := by
  cases a with
  | float | array | hash => rfl
  | _ => cases h

private theorem ofKey_keyOfValue (ha : Legible a) (h : a.lacksKey = false) :
    ofKey (LoadOptions.keyOfValue ⟨false⟩ a) = a := by
  cases a with
  | float | array | hash => cases h
  | wrapped id content =>
    have hobject := object?_of_objectFree ha.objectFree
    cases hobject
  | custom object =>
    have hobject := object?_of_objectFree ha.objectFree
    cases hobject
  | _ => rfl

private theorem Spells.keyOfValue_eq (h : a.Spells b) :
    LoadOptions.keyOfValue ⟨false⟩ a = LoadOptions.keyOfValue ⟨false⟩ b := by
  obtain ⟨hb, rfl⟩ := h
  rw [keyOfValue_of_lacksKey hb]
  rfl

private theorem spells_of_keyOfValue_eq (ha : Legible a) (hka : a.lacksKey = false)
    (hkb : b.lacksKey = true)
    (h : LoadOptions.keyOfValue ⟨false⟩ a = LoadOptions.keyOfValue ⟨false⟩ b) : a.Spells b := by
  refine ⟨hkb, ?_⟩
  rw [← ofKey_keyOfValue ha hka, h, keyOfValue_of_lacksKey hkb]
  rfl

theorem keyOfValue_eq_iff (ha : Legible a) (hb : Legible b) :
    LoadOptions.keyOfValue ⟨false⟩ a = LoadOptions.keyOfValue ⟨false⟩ b ↔ a.Collides b := by
  constructor
  · intro h
    cases hka : a.lacksKey with
    | false =>
      cases hkb : b.lacksKey with
      | false => exact .inl (by rw [← ofKey_keyOfValue ha hka, h, ofKey_keyOfValue hb hkb])
      | true => exact .inr (.inl (spells_of_keyOfValue_eq ha hka hkb h))
    | true =>
      cases hkb : b.lacksKey with
      | false => exact .inr (.inr (spells_of_keyOfValue_eq hb hkb hka h.symm))
      | true =>
        rw [keyOfValue_of_lacksKey hka, keyOfValue_of_lacksKey hkb, Key.str.injEq] at h
        exact .inl ((tellsApart ha b hb).eq_of_eq (String.ofList_inj.mp h))
  · rintro (rfl | h | h)
    · rfl
    · exact h.keyOfValue_eq
    · exact h.keyOfValue_eq.symm

end Value

namespace Yaml.Tree

/-- What a tree becomes as a key of a mapping. -/
def toKey (options : LoadOptions) (tree : Tree) : Key :=
  options.keyOfValue (tree.toValue options)

private theorem legible_toValue (tree : Tree) : Value.Legible (tree.toValue ⟨false⟩) := by
  refine ⟨(Loaded.yaml tree).objectFree, ?_⟩
  apply (kind ⟨false⟩).everywhere_of_forall (wellFounded_isPart _) _ tree
  intro node
  have hlacks := Value.test_of_everywhere (Loaded.yaml node).symbolizable
  rw [Value.symbolizable, Bool.and_eq_true] at hlacks
  change (node.toValue ⟨false⟩).hasNoSymbol = true
  cases hv : node.toValue ⟨false⟩ with
  | sym name => exact absurd hv (toValue_ne_sym node name)
  | hash entries =>
    rw [hv] at hlacks
    exact hlacks.2
  | _ => rfl

theorem toKey_eq_iff {a b : Tree} :
    a.toKey ⟨false⟩ = b.toKey ⟨false⟩ ↔ (a.toValue ⟨false⟩).Collides (b.toValue ⟨false⟩) :=
  Value.keyOfValue_eq_iff (legible_toValue a) (legible_toValue b)

theorem toKey_ne_of_string {a b : Tree} {text : String} (ha : a.toValue ⟨true⟩ = .str text)
    (hb : ∀ other, b.toValue ⟨true⟩ ≠ .str other) : a.toKey ⟨true⟩ ≠ b.toKey ⟨true⟩ := by
  have hsym : a.toKey ⟨true⟩ = .sym text := by
    rw [toKey, ha]
    rfl
  rw [hsym, toKey]
  cases hv : b.toValue ⟨true⟩ with
  | str other => exact absurd hv (hb other)
  | sym name => exact absurd hv (toValue_ne_sym b name)
  | _ => nofun

end Yaml.Tree

end KeyPath
