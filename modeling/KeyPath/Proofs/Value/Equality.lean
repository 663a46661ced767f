import KeyPath.Proofs.Lookup.Delegation
/-!
# Laws of equality

Equality of values is symmetric and transitive. It is reflexive but for NaN: a value equals itself
unless a NaN stands somewhere in it. Objects count by their identity, and what is inside them does
not count.
-/

namespace KeyPath

namespace Binary64

variable {x y z : Binary64}

private theorem beq_finite_iff {s s' : Bool} {m m' : Nat} {e e' : Int} {h : IsNormalForm m e}
    {h' : IsNormalForm m' e'} :
    (finite s m e h).beq (finite s' m' e' h') = true ↔
      m = 0 ∧ m' = 0 ∨ s = s' ∧ m = m' ∧ e = e' := by
  simp [Binary64.beq, and_assoc]

theorem beq_symm (h : x.beq y = true) : y.beq x = true := by
  cases x with
  | nan => cases h
  | infinite s =>
    cases y with
    | infinite s' => exact BEq.symm h
    | _ => cases h
  | finite s m e _ =>
    cases y with
    | finite s' m' e' _ =>
      rw [beq_finite_iff] at h ⊢
      rcases h with ⟨hm, hm'⟩ | ⟨rfl, rfl, rfl⟩
      · exact .inl ⟨hm', hm⟩
      · exact .inr ⟨rfl, rfl, rfl⟩
    | _ => cases h

theorem beq_trans (h : x.beq y = true) (h' : y.beq z = true) : x.beq z = true := by
  cases x with
  | nan => cases h
  | infinite s =>
    cases y with
    | infinite s' =>
      rw [eq_of_beq (show (s == s') = true from h)]
      exact h'
    | _ => cases h
  | finite s m e _ =>
    cases y with
    | finite s' m' e' _ =>
      cases z with
      | finite s'' m'' e'' _ =>
        rw [beq_finite_iff] at h h' ⊢
        rcases h with ⟨hm, hm'⟩ | ⟨rfl, rfl, rfl⟩
        · rcases h' with ⟨_, hm''⟩ | ⟨_, rfl, _⟩
          · exact .inl ⟨hm, hm''⟩
          · exact .inl ⟨hm, hm'⟩
        · exact h'
      | _ => cases h'
    | _ => cases h

theorem beq_self_iff : x.beq x = true ↔ x ≠ nan := by
  cases x <;> simp [Binary64.beq]

end Binary64

namespace Value

/-- Whether a value equals nothing but itself. -/
def isExact : Value → Bool
  | nil | bool _ | int _ | str _ | sym _ => true
  | _ => false

/-- Values by what they are compared by. -/
@[elab_as_elim]
theorem comparison {motive : Value → Prop}
    (exact : ∀ value, value.isExact = true → motive value)
    (float : ∀ x, motive (float x))
    (object : ∀ object : Object, motive object.toValue)
    (array : ∀ items, (∀ item ∈ items, motive item) → motive (array items))
    (hash : ∀ entries, (∀ entry ∈ entries, motive entry.2) → motive (hash entries))
    (value : Value) : motive value := by
  induction value using Value.induction with
  | leaf value harray hhash =>
    cases value with
    | array items => exact absurd rfl (harray items)
    | hash entries => exact absurd rfl (hhash entries)
    | float x => exact float x
    | wrapped id content => exact object (.wrapped id content)
    | custom ref => exact object (.custom ref)
    | _ => exact exact _ rfl
  | array items ih => exact array items ih
  | hash entries ih => exact hash entries ih

variable {value other : Value}

theorem beq_iff_of_isExact (h : value.isExact = true) :
    (value == other) = true ↔ other = value := by
  change Value.beq value other = true ↔ _
  rw [eq_comm (a := other)]
  cases value with
  | float | array | hash | wrapped | custom => cases h
  | _ => cases other <;> simp [Value.beq]

theorem beq_float_iff {x : Binary64} :
    (float x == other) = true ↔ ∃ y, other = float y ∧ x.beq y = true := by
  change Value.beq (float x) other = true ↔ _
  cases other <;> simp [Value.beq]

private theorem not_beq_of_object?_eq_none {object : Object} (h : other.object? = none) :
    ¬ (object.toValue == other) = true := by
  change ¬ Value.beq object.toValue other = true
  cases other with
  | wrapped | custom => cases h
  | _ => cases object <;> exact Bool.false_ne_true

theorem beq_object_iff {object : Object} :
    (object.toValue == other) = true ↔
      ∃ same : Object, other = same.toValue ∧ same.identity = object.identity := by
  constructor
  · intro h
    cases hother : other.object? with
    | none => exact absurd h (not_beq_of_object?_eq_none hother)
    | some same =>
      rw [object?_eq_some_iff] at hother
      subst hother
      exact ⟨same, rfl, (Object.toValue_beq_iff.mp h).symm⟩
  · rintro ⟨same, rfl, hidentity⟩
    exact Object.toValue_beq_iff.mpr hidentity.symm

theorem beq_array_iff {items : List Value} :
    (array items == other) = true ↔
      ∃ others, other = array others ∧ beqItems items others = true := by
  change Value.beq (array items) other = true ↔ _
  cases other <;> simp [Value.beq]

theorem beqEntries_iff {entries others : List (Key × Value)} :
    beqEntries entries others = true ↔
      others.map Prod.fst = entries.map Prod.fst ∧
        beqItems (entries.map Prod.snd) (others.map Prod.snd) = true := by
  induction entries generalizing others with
  | nil => cases others <;> simp [beqEntries, beqItems]
  | cons entry entries ih =>
    cases others with
    | nil => simp [beqEntries]
    | cons first others =>
      simp only [beqEntries, beqItems, List.map_cons, List.cons.injEq, Bool.and_eq_true, beq_iff_eq,
        ih]
      constructor
      · rintro ⟨⟨hkey, hvalue⟩, hkeys, hvalues⟩
        exact ⟨⟨hkey.symm, hkeys⟩, hvalue, hvalues⟩
      · rintro ⟨⟨hkey, hkeys⟩, hvalue, hvalues⟩
        exact ⟨⟨hkey.symm, hvalue⟩, hkeys, hvalues⟩

theorem beq_hash_iff {entries : List (Key × Value)} :
    (hash entries == other) = true ↔
      ∃ others, other = hash others ∧ others.map Prod.fst = entries.map Prod.fst ∧
        beqItems (entries.map Prod.snd) (others.map Prod.snd) = true := by
  change Value.beq (hash entries) other = true ↔ _
  cases other <;> simp [Value.beq, beqEntries_iff]

private theorem beqItems_symm {items others : List Value}
    (hsymm : ∀ a ∈ items, ∀ b, (a == b) = true → (b == a) = true)
    (h : beqItems items others = true) : beqItems others items = true := by
  induction items generalizing others with
  | nil =>
    cases others with
    | nil => rfl
    | cons first others => cases h
  | cons item items ih =>
    cases others with
    | nil => cases h
    | cons first others =>
      obtain ⟨hfirst, hrest⟩ := Bool.and_eq_true_iff.mp h
      have hrest' := ih (fun a hm => hsymm a (List.mem_cons_of_mem _ hm)) hrest
      exact Bool.and_eq_true_iff.mpr ⟨hsymm item List.mem_cons_self first hfirst, hrest'⟩

private theorem beqItems_trans {items others last : List Value}
    (htrans : ∀ a ∈ items, ∀ b c, (a == b) = true → (b == c) = true → (a == c) = true)
    (h : beqItems items others = true) (h' : beqItems others last = true) :
    beqItems items last = true := by
  induction items generalizing others last with
  | nil =>
    cases others with
    | nil => exact h'
    | cons first others => cases h
  | cons item items ih =>
    cases others with
    | nil => cases h
    | cons first others =>
      cases last with
      | nil => cases h'
      | cons third last =>
        obtain ⟨hfirst, hrest⟩ := Bool.and_eq_true_iff.mp h
        obtain ⟨hfirst', hrest'⟩ := Bool.and_eq_true_iff.mp h'
        have hitem := htrans item List.mem_cons_self first third hfirst hfirst'
        have hitems := ih (fun a hm => htrans a (List.mem_cons_of_mem _ hm)) hrest hrest'
        exact Bool.and_eq_true_iff.mpr ⟨hitem, hitems⟩

private theorem beqItems_self_iff {items : List Value} :
    beqItems items items = true ↔ ∀ item ∈ items, (item == item) = true := by
  induction items with
  | nil => simp [beqItems]
  | cons item items ih =>
    rw [List.forall_mem_cons, ← ih]
    exact Bool.and_eq_true_iff

theorem beq_symm {a b : Value} (h : (a == b) = true) : (b == a) = true := by
  induction a using comparison generalizing b with
  | exact a ha =>
    obtain rfl := (beq_iff_of_isExact ha).mp h
    exact h
  | float x =>
    obtain ⟨y, rfl, hxy⟩ := beq_float_iff.mp h
    exact beq_float_iff.mpr ⟨x, rfl, Binary64.beq_symm hxy⟩
  | object object =>
    obtain ⟨same, rfl, hidentity⟩ := beq_object_iff.mp h
    exact beq_object_iff.mpr ⟨object, rfl, hidentity.symm⟩
  | array items ih =>
    obtain ⟨others, rfl, hitems⟩ := beq_array_iff.mp h
    exact beq_array_iff.mpr ⟨items, rfl, beqItems_symm (fun a hm _ => ih a hm) hitems⟩
  | hash entries ih =>
    obtain ⟨others, rfl, hkeys, hvalues⟩ := beq_hash_iff.mp h
    refine beq_hash_iff.mpr ⟨entries, rfl, hkeys.symm, beqItems_symm ?_ hvalues⟩
    intro a hm b hab
    obtain ⟨entry, he, rfl⟩ := List.mem_map.mp hm
    exact ih entry he hab

theorem beq_trans {a b c : Value} (h : (a == b) = true) (h' : (b == c) = true) :
    (a == c) = true := by
  induction a using comparison generalizing b c with
  | exact a ha =>
    obtain rfl := (beq_iff_of_isExact ha).mp h
    exact h'
  | float x =>
    obtain ⟨y, rfl, hxy⟩ := beq_float_iff.mp h
    obtain ⟨z, rfl, hyz⟩ := beq_float_iff.mp h'
    exact beq_float_iff.mpr ⟨z, rfl, Binary64.beq_trans hxy hyz⟩
  | object object =>
    obtain ⟨same, rfl, hidentity⟩ := beq_object_iff.mp h
    obtain ⟨last, rfl, hidentity'⟩ := beq_object_iff.mp h'
    exact beq_object_iff.mpr ⟨last, rfl, hidentity'.trans hidentity⟩
  | array items ih =>
    obtain ⟨others, rfl, hitems⟩ := beq_array_iff.mp h
    obtain ⟨last, rfl, hitems'⟩ := beq_array_iff.mp h'
    exact beq_array_iff.mpr ⟨last, rfl, beqItems_trans (fun a hm _ _ => ih a hm) hitems hitems'⟩
  | hash entries ih =>
    obtain ⟨others, rfl, hkeys, hvalues⟩ := beq_hash_iff.mp h
    obtain ⟨last, rfl, hkeys', hvalues'⟩ := beq_hash_iff.mp h'
    refine beq_hash_iff.mpr ⟨last, rfl, hkeys'.trans hkeys, beqItems_trans ?_ hvalues hvalues'⟩
    intro a hm b c hab hbc
    obtain ⟨entry, he, rfl⟩ := List.mem_map.mp hm
    exact ih entry he hab hbc

instance : PartialEquivBEq Value := ⟨beq_symm, beq_trans⟩

theorem inside_leaf_iff {leaf : Value} (harray : ∀ items, leaf ≠ array items)
    (hhash : ∀ entries, leaf ≠ hash entries) : Inside value leaf ↔ value = leaf := by
  constructor
  · intro hi
    cases hi with
    | here => rfl
    | item _ _ => exact absurd rfl (harray _)
    | entry _ _ => exact absurd rfl (hhash _)
  · rintro rfl
    exact .here

theorem inside_array_iff {items : List Value} (h : ∀ others, value ≠ array others) :
    Inside value (array items) ↔ ∃ item ∈ items, Inside value item := by
  constructor
  · intro hi
    cases hi with
    | here => exact absurd rfl (h items)
    | item hm hi => exact ⟨_, hm, hi⟩
  · rintro ⟨item, hm, hi⟩
    exact .item hm hi

theorem inside_hash_iff {entries : List (Key × Value)} (h : ∀ others, value ≠ hash others) :
    Inside value (hash entries) ↔ ∃ entry ∈ entries, Inside value entry.2 := by
  constructor
  · intro hi
    cases hi with
    | here => exact absurd rfl (h entries)
    | entry hm hi => exact ⟨_, hm, hi⟩
  · rintro ⟨⟨key, content⟩, hm, hi⟩
    exact .entry hm hi

/-- A value equals itself unless a NaN stands in it, outside objects. -/
theorem beq_self_iff : (value == value) = true ↔ ¬ Inside (float .nan) value := by
  induction value using comparison with
  | exact value hexact =>
    refine iff_of_true ((beq_iff_of_isExact hexact).mpr rfl) ?_
    intro hi
    cases hi <;> cases hexact
  | float x =>
    have hself : (float x == float x) = true ↔ x.beq x = true := Iff.rfl
    have hinside : Inside (float .nan) (float x) ↔ float .nan = float x :=
      inside_leaf_iff nofun nofun
    rw [hself, Binary64.beq_self_iff, hinside, Value.float.injEq, eq_comm]
  | object object =>
    refine iff_of_true (beq_object_iff.mpr ⟨object, rfl, rfl⟩) ?_
    intro hi
    cases object <;> cases hi
  | array items ih =>
    have hself : (array items == array items) = true ↔ beqItems items items = true := Iff.rfl
    have hinside : Inside (float .nan) (array items) ↔ ∃ item ∈ items, Inside (float .nan) item :=
      inside_array_iff nofun
    rw [hself, beqItems_self_iff, hinside]
    simp only [not_exists, not_and]
    exact forall₂_congr ih
  | hash entries ih =>
    have hself : (hash entries == hash entries) = true ↔ beqEntries entries entries = true :=
      Iff.rfl
    have hinside : Inside (float .nan) (hash entries) ↔
        ∃ entry ∈ entries, Inside (float .nan) entry.2 := inside_hash_iff nofun
    rw [hself, beqEntries_iff, beqItems_self_iff, hinside, List.forall_mem_map]
    simp only [true_and, not_exists, not_and]
    exact forall₂_congr ih

end Value

end KeyPath
