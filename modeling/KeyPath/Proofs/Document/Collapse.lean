import KeyPath.Proofs.Yaml.Alike
/-!
# Keys of YAML mappings that collapse

Two keys collapse if they have one value, or if one of them spells the other. They have one value if
they are alike: the same but for tags, the rounding of integers, and what the mappings inside them
lose in their turn. Once strings become symbols, they share their keys with nothing else.
-/

namespace KeyPath.Yaml.Tree

private theorem exists_members_perm {options : LoadOptions} {entries : List (Tree × Tree)}
    (h : (keys options entries).Nodup) :
    ∃ members, (mapping entries).toValue options = .hash members ∧
      members.Perm (toValueEntries options entries) := by
  refine ⟨_, rfl, Assoc.ofList_perm ?_⟩
  rw [toValueEntries_eq_map, List.map_map]
  exact h

/-- An entry is lost inside a key. Keys that differ in it collapse, although they differ in more
than tags and rounding, and neither spells the other. -/
theorem toKey_eq_of_lost_inside :
    let both : List (Tree × Tree) :=
      [(.number (.float (.ofDecimal false 15 (-1))), .string "x"), (.string "1.5", .string "y")]
    let last : List (Tree × Tree) := [(.string "1.5", .string "y")]
    let entries : List (Tree × Tree) :=
      [(.mapping both, .number (.integer 1)), (.mapping last, .number (.integer 2))]
    distinctKeys both = true ∧ distinctKeys entries = true ∧
      (mapping both).toKey ⟨false⟩ = (mapping last).toKey ⟨false⟩ ∧
      (mapping both).bare ≠ (mapping last).bare ∧
      ¬((mapping both).toValue ⟨false⟩).Spells ((mapping last).toValue ⟨false⟩) ∧
      ¬((mapping last).toValue ⟨false⟩).Spells ((mapping both).toValue ⟨false⟩) ∧
      (mapping entries).toValue ⟨false⟩ = .hash [(.str "\x7b\"1.5\"=>\"y\"\x7d", .int 2)] := by
  intro both last entries
  have hvalue : (mapping both).toValue ⟨false⟩ = .hash [(.str "1.5", .str "y")] := by rfl
  have hlast : (mapping last).toValue ⟨false⟩ = .hash [(.str "1.5", .str "y")] := by rfl
  refine ⟨by rfl, by rfl, ?_, ?_, ?_, ?_, ?_⟩
  · rw [toKey, toKey, hvalue, hlast]
  · intro h
    simp [both, last, bare_mapping] at h
  · rw [hvalue, hlast]
    rintro ⟨_, h⟩
    cases h
  · rw [hvalue, hlast]
    rintro ⟨_, h⟩
    cases h
  · rw [toValue, toValueEntries, toValueEntries, toValueEntries, hvalue, hlast]
    rfl

/-- Without symbols two keys of YAML mappings collapse if and only if they have one value or one of
them is a string, spelled as the inspect form of the other, which is a floating point number, an
array or a hash. Without tags and with rounded numbers, keys that have one value are alike: the same
but for what the mappings inside them lose. Without mappings inside they are the same. A mapping
whose keys do not collide keeps all its entries. With symbols a string collapses with nothing but
strings. -/
theorem toKey_collapses :
    (∀ a b : Tree, a.toKey ⟨false⟩ = b.toKey ⟨false⟩ ↔
      (a.toValue ⟨false⟩).Collides (b.toValue ⟨false⟩)) ∧
    (∀ a b : Tree, a.toValue ⟨false⟩ = b.toValue ⟨false⟩ ↔ Alike a.bare b.bare) ∧
    (∀ a b : Tree, a.toKey ⟨false⟩ = b.toKey ⟨false⟩ ↔ Collapse a.bare b.bare) ∧
    (∀ a b : Tree, (a.bare = b.bare → Alike a.bare b.bare) ∧
      (a.MappingFree → b.MappingFree → Alike a.bare b.bare → a.bare = b.bare)) ∧
    (∀ entries : List (Tree × Tree),
      entries.Pairwise (fun a b => ¬(a.1.toValue ⟨false⟩).Collides (b.1.toValue ⟨false⟩)) →
        ∃ members, (mapping entries).toValue ⟨false⟩ = .hash members ∧
          members.Perm (toValueEntries ⟨false⟩ entries)) ∧
    ∀ (a b : Tree) (text : String), a.toValue ⟨true⟩ = .str text →
      (∀ other, b.toValue ⟨true⟩ ≠ .str other) → a.toKey ⟨true⟩ ≠ b.toKey ⟨true⟩ := by
  refine ⟨fun _ _ => toKey_eq_iff, fun _ _ => toValue_eq_iff_alike, ?_, ?_, ?_,
    fun _ _ _ => toKey_ne_of_string⟩
  · intro a b
    constructor
    · exact fun h => .bare h alike_bare_of_toValue_eq
    · intro h
      rw [← toKey_bare a, ← toKey_bare b]
      exact h.toKey_eq Alike.toValue_eq
  · intro a b
    constructor
    · exact fun h => alike_bare_of_toValue_eq (toValue_eq_of_rounded_eq h)
    · exact fun ha hb h => rounded_eq_of_toValue_eq ha hb (toValue_eq_iff_alike.mpr h)
  · intro entries h
    apply exists_members_perm
    rw [keys, List.Nodup, List.pairwise_map]
    exact h.imp fun hne heq => hne (toKey_eq_iff.mp heq)

/-- A sequence collapses with the string that spells it and, through a tag and a rounded integer,
with another sequence. An integer, a string of its digit and a sequence of it stay apart. Mappings
are alike if one has a number for its key and the other the string that spells it. -/
theorem toKey_collapses_sequences :
    let large : Tree := .tagged "!t" (.sequence [.number (.integer (2 ^ 64))])
    let rounded : Tree := .sequence [.number (.float (.ofInt (2 ^ 64)))]
    let pair : Tree := .sequence [.string "a", .null]
    let spelled : Tree := .string "[\"a\", nil]"
    let one : Tree := .number (.integer 1)
    let entries : List (Tree × Tree) :=
      [(.sequence [one], .null), (.string "1", .null), (one, .bool true)]
    let half : Tree := .mapping [(.number (.float (.ofDecimal false 5 (-1))), one)]
    let text : Tree := .mapping [(.string "0.5", .tagged "!t" one)]
    large.MappingFree ∧ rounded.MappingFree ∧ large.bare = rounded.bare ∧
      large.toKey ⟨false⟩ = rounded.toKey ⟨false⟩ ∧
      (spelled.toValue ⟨false⟩).Spells (pair.toValue ⟨false⟩) ∧
      spelled.toKey ⟨false⟩ = pair.toKey ⟨false⟩ ∧ spelled.toKey ⟨true⟩ ≠ pair.toKey ⟨true⟩ ∧
      entries.Pairwise (fun a b => ¬(a.1.toValue ⟨false⟩).Collides (b.1.toValue ⟨false⟩)) ∧
      (∃ members, (mapping entries).toValue ⟨false⟩ = .hash members ∧
        members.Perm [(.str "[1]", .nil), (.str "1", .nil), (.int 1, .bool true)]) ∧
      Alike half.bare text.bare ∧ half.toKey ⟨false⟩ = text.toKey ⟨false⟩ := by
  intro large rounded pair spelled one entries half text
  obtain ⟨hcollapse, hvalues, hkeys, hbare, hkept, hsymbols⟩ := toKey_collapses
  have hlarge : large.MappingFree := by
    intro entries hi
    have hi : Inside (.mapping entries) (.tagged _ _) := hi
    cases hi with
    | tagged hi =>
      cases hi with
      | item hm hi =>
        cases List.mem_singleton.mp hm
        cases hi
  have hfloat : rounded.MappingFree := by
    intro entries hi
    have hi : Inside (.mapping entries) (.sequence _) := hi
    cases hi with
    | item hm hi =>
      cases List.mem_singleton.mp hm
      cases hi
  have hlike : Alike large.bare rounded.bare := (hbare _ _).1 rfl
  have hspells : (spelled.toValue ⟨false⟩).Spells (pair.toValue ⟨false⟩) :=
    ⟨rfl, congrArg Value.str (by decide)⟩
  have hdistinct : entries.Pairwise fun a b => a.1.toKey ⟨false⟩ ≠ b.1.toKey ⟨false⟩ := by decide
  have hapart : entries.Pairwise
      (fun a b => ¬(a.1.toValue ⟨false⟩).Collides (b.1.toValue ⟨false⟩)) :=
    hdistinct.imp fun hne h => hne ((hcollapse _ _).mpr h)
  have hhalf : Alike half.bare text.bare := (hvalues half text).mp (by rfl)
  exact ⟨hlarge, hfloat, (hbare _ _).2 hlarge hfloat hlike, (hkeys _ _).mpr (.alike hlike), hspells,
    (hcollapse _ _).mpr (.inr (.inl hspells)), hsymbols _ _ _ rfl nofun, hapart,
    hkept entries hapart, hhalf, (hkeys _ _).mpr (.alike hhalf)⟩

end KeyPath.Yaml.Tree
