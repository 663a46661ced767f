import KeyPath.Proofs.Value.Part
/-!
# What walks come to

A walk along an address is the walk from the value addressed. From this follow the two ends of a
walk: it hands over at the only prefix that addresses an object with a key left, and it settles
with the outcome that the first blocking position fixes.
-/

namespace KeyPath

variable {root value next : Value} {key : Key} {keys before rest : List Key} {object : Object}

theorem index_eq_some_iff : value.index key = .ok (some next) ↔ Entry value key next := by
  constructor
  · intro h
    cases value with
    | hash entries =>
      simp only [Value.index, Assoc.get?_eq_lookup, Except.ok.injEq] at h
      exact .hash h
    | array items =>
      cases key with
      | int index =>
        simp only [Value.index, resolveIndex, Key.asIndex?, Except.ok.injEq,
          Option.bind_eq_some_iff] at h
        obtain ⟨position, hp, hi⟩ := h
        exact .array hi (position?_eq_some_iff.mp hp).2
      | _ => simp [Value.index, resolveIndex, Key.asIndex?] at h
    | _ => simp [Value.index] at h
  · intro h
    cases h with
    | hash hl => rw [Value.index, Assoc.get?_eq_lookup, hl]
    | @array items index position _ hi hp =>
      have hlt : position < items.length := (List.getElem?_eq_some_iff.mp hi).1
      have hr := position?_eq_some_iff.mpr ⟨hlt, hp⟩
      simp [Value.index, resolveIndex, Key.asIndex?, hr, hi]

theorem index_eq_none_iff :
    value.index key = .ok none ↔ value.accepts key = true ∧ ∀ next, ¬ Entry value key next := by
  have habsent (h : value.index key = .ok none) (next : Value) : ¬ Entry value key next := by
    intro he
    rw [index_eq_some_iff.mpr he] at h
    cases h
  constructor
  · intro h
    refine ⟨?_, habsent h⟩
    cases value with
    | hash entries => rfl
    | array items =>
      cases key with
      | int index => rfl
      | _ => simp [Value.index, resolveIndex, Key.asIndex?] at h
    | _ => simp [Value.index] at h
  · rintro ⟨ha, hn⟩
    cases hi : value.index key with
    | ok found =>
      cases found with
      | none => rfl
      | some next => exact absurd (index_eq_some_iff.mp hi) (hn next)
    | error e =>
      cases value with
      | hash entries => simp [Value.index] at hi
      | array items =>
        cases key with
        | int index => simp [Value.index, resolveIndex, Key.asIndex?] at hi
        | _ => cases ha
      | _ => cases ha

theorem index_of_isScalar (h : value.isScalar = true) :
    value.index key = .error (.notDiggable value.typeName key) := by
  cases value <;> simp_all [Value.isScalar, Value.index]

private theorem index_array_of_asIndex?_eq_none {items : List Value} (h : key.asIndex? = none) :
    (Value.array items).index key = .error (.invalidIndex key) := by
  simp only [Value.index, resolveIndex, h]

theorem object?_of_accepts (h : value.accepts key = true) : value.object? = none := by
  cases value <;> simp_all [Value.accepts, Value.object?]

theorem object?_of_isScalar (h : value.isScalar = true) : value.object? = none := by
  cases value <;> simp_all [Value.isScalar, Value.object?]

/-- What a value makes of a key. -/
inductive KeyStep (value : Value) (key : Key) : Prop where
  /-- It is an object and has to answer by itself. -/
  | object (object : Object) : value.object? = some object → KeyStep value key
  | invalidIndex (items : List Value) :
      value = .array items → key.asIndex? = none → KeyStep value key
  | notDiggable : value.isScalar = true → KeyStep value key
  /-- It takes the key, but has no entry there or a nil. -/
  | absent : value.accepts key = true →
      (∀ next, ¬ Entry value key next) ∨ Entry value key .nil → KeyStep value key
  | entry (next : Value) : Entry value key next → next ≠ .nil → KeyStep value key

theorem keyStep (value : Value) (key : Key) : KeyStep value key := by
  by_cases ha : value.accepts key = true
  · by_cases hs : ∃ next, Entry value key next ∧ next ≠ .nil
    · obtain ⟨next, he, hn⟩ := hs
      exact .entry next he hn
    · by_cases he : Entry value key .nil
      · exact .absent ha (Or.inr he)
      · refine .absent ha (Or.inl ?_)
        intro next hx
        by_cases hn : next = .nil
        · exact he (hn ▸ hx)
        · exact hs ⟨next, hx, hn⟩
  · cases value with
    | hash entries => exact absurd rfl ha
    | array items =>
      cases key with
      | int index => exact absurd rfl ha
      | _ => exact .invalidIndex items rfl rfl
    | wrapped id content => exact .object (.wrapped id content) rfl
    | custom ref => exact .object (.custom ref) rfl
    | _ => exact .notDiggable rfl

theorem walk_cons_of_object (h : value.object? = some object) :
    walk value (key :: rest) = .handOver object (key :: rest) := by
  rw [walk, h]

theorem walk_cons_of_invalidIndex {items : List Value} (h : key.asIndex? = none) :
    walk (.array items) (key :: rest) = .settled (.error (.invalidIndex key)) := by
  rw [walk, index_array_of_asIndex?_eq_none h]
  rfl

theorem walk_cons_of_isScalar (h : value.isScalar = true) :
    walk value (key :: rest) = .settled (.error (.notDiggable value.typeName key)) := by
  rw [walk, object?_of_isScalar h, index_of_isScalar h]

theorem walk_cons_of_absent (ha : value.accepts key = true)
    (hm : (∀ next, ¬ Entry value key next) ∨ Entry value key .nil) :
    walk value (key :: rest) = .settled (.ok .absent) := by
  rcases hm with hm | hm
  · rw [walk, object?_of_accepts ha, index_eq_none_iff.mpr ⟨ha, hm⟩]
  · rw [walk, object?_of_accepts ha, index_eq_some_iff.mpr hm]
    rfl

theorem walk_cons_of_entry (h : Entry value key next) (hn : next ≠ .nil) :
    walk value (key :: rest) = walk next rest := by
  rw [walk, h.object?_eq_none, index_eq_some_iff.mpr h]
  simp [hn]

/-- A walk along an address is the walk from the value addressed. -/
theorem walk_append (h : Addresses root before value) (hn : value ≠ .nil) :
    walk root (before ++ rest) = walk value rest := by
  induction h with
  | here => rfl
  | step he ha ih =>
    rw [List.cons_append, walk_cons_of_entry he (ha.root_ne_nil hn)]
    exact ih hn

/-- A walk stands on a value with a key to take: the keys before that key lead there. Nil ends a
walk wherever it is reached, so that a walk stands on nil only at its root. -/
structure StandsOn (root : Value) (keys : List Key) (i : Nat) (value : Value) (key : Key) :
    Prop where
  key_eq : keys[i]? = some key
  addresses : Addresses root (keys.take i) value
  root_of_nil : value = .nil → i = 0

namespace StandsOn

variable {i : Nat}

private theorem lt_length (h : StandsOn root keys i value key) : i < keys.length :=
  (List.getElem?_eq_some_iff.mp h.key_eq).1

theorem zero (root : Value) (key : Key) (rest : List Key) :
    StandsOn root (key :: rest) 0 root key :=
  ⟨rfl, .here, fun _ => rfl⟩

theorem succ {first : Key} (he : Entry root first next) (hn : next ≠ .nil)
    (h : StandsOn next rest i value key) : StandsOn root (first :: rest) (i + 1) value key := by
  refine ⟨by simpa using h.key_eq, .step he h.addresses, ?_⟩
  intro hv
  have hi : i = 0 := h.root_of_nil hv
  have ha := h.addresses
  rw [hi, List.take_zero] at ha
  cases ha
  exact absurd hv hn

theorem append (h : StandsOn root keys i value key) (more : List Key) :
    StandsOn root (keys ++ more) i value key := by
  refine ⟨?_, ?_, h.root_of_nil⟩
  · rw [List.getElem?_append_left h.lt_length]
    exact h.key_eq
  · rw [List.take_append_of_le_length (Nat.le_of_lt h.lt_length)]
    exact h.addresses

theorem take (h : StandsOn root keys i value key) :
    StandsOn root (keys.take (i + 1)) i value key := by
  refine ⟨?_, ?_, h.root_of_nil⟩
  · rw [List.getElem?_take_of_lt (Nat.lt_succ_self i)]
    exact h.key_eq
  · rw [List.take_take, Nat.min_eq_left (Nat.le_succ i)]
    exact h.addresses

theorem walk_eq (h : StandsOn root keys i value key) :
    walk root keys = walk value (key :: keys.drop (i + 1)) := by
  obtain ⟨hi, hk⟩ := List.getElem?_eq_some_iff.mp h.key_eq
  have hd : keys.drop i = key :: keys.drop (i + 1) := by
    rw [List.drop_eq_getElem_cons hi, hk]
  rw [← hd]
  by_cases hv : value = .nil
  · have ha := h.addresses
    rw [h.root_of_nil hv, List.take_zero] at ha
    rw [h.root_of_nil hv]
    cases ha
    rfl
  · have hw : walk root (keys.take i ++ keys.drop i) = walk value (keys.drop i) :=
      walk_append h.addresses hv
    rwa [List.take_append_drop] at hw

end StandsOn

/-- Keys lead to an object with at least one key left. As no key leads on from an object, it is
the first that a walk comes to. -/
def MeetsObject (root : Value) (keys : List Key) (i : Nat) (object : Object) : Prop :=
  i < keys.length ∧ Addresses root (keys.take i) object.toValue

theorem MeetsObject.walk_eq {i : Nat} (h : MeetsObject root keys i object) :
    walk root keys = .handOver object (keys.drop i) := by
  obtain ⟨hi, ha⟩ := h
  have hs : StandsOn root keys i object.toValue keys[i] :=
    ⟨List.getElem?_eq_getElem hi, ha, fun hn => absurd hn object.toValue_ne_nil⟩
  rw [hs.walk_eq, walk_cons_of_object object.object?_toValue, ← List.drop_eq_getElem_cons hi]

theorem exists_meetsObject_of_walk_eq (h : walk root keys = .handOver object rest) :
    ∃ i, MeetsObject root keys i object ∧ rest = keys.drop i := by
  induction keys generalizing root with
  | nil => cases h
  | cons key keys ih =>
    cases keyStep root key with
    | object found ho =>
      rw [walk_cons_of_object ho] at h
      cases h
      rw [Value.object?_eq_some_iff.mp ho]
      exact ⟨0, ⟨Nat.succ_pos _, .here⟩, rfl⟩
    | invalidIndex items hv hk =>
      rw [hv, walk_cons_of_invalidIndex hk] at h
      cases h
    | notDiggable hv =>
      rw [walk_cons_of_isScalar hv] at h
      cases h
    | absent ha hm =>
      rw [walk_cons_of_absent ha hm] at h
      cases h
    | entry next he hn =>
      rw [walk_cons_of_entry he hn] at h
      obtain ⟨i, ⟨hi, ha⟩, hr⟩ := ih h
      exact ⟨i + 1, ⟨Nat.succ_lt_succ hi, .step he ha⟩, hr⟩

/-- A walk hands over exactly where it meets an object with a key left, all keys left going to
that object. -/
theorem walk_eq_handOver_iff :
    walk root keys = .handOver object rest ↔
      ∃ i, MeetsObject root keys i object ∧ rest = keys.drop i := by
  constructor
  · exact exists_meetsObject_of_walk_eq
  · rintro ⟨i, hm, rfl⟩
    exact hm.walk_eq

theorem exists_walk_eq_settled (hn : ∀ i object, ¬ MeetsObject root keys i object) :
    ∃ result, walk root keys = .settled result := by
  cases hw : walk root keys with
  | settled result => exact ⟨result, rfl⟩
  | handOver object rest =>
    obtain ⟨i, hm, _⟩ := exists_meetsObject_of_walk_eq hw
    exact absurd hm (hn i object)

theorem not_meetsObject_of_objectFree (h : root.objectFree = true) (i : Nat) (object : Object) :
    ¬ MeetsObject root keys i object := by
  rintro ⟨_, ha⟩
  have hv := Value.object?_of_objectFree (ha.everywhere h)
  rw [object.object?_toValue] at hv
  cases hv

theorem exists_walk_eq_settled_of_objectFree (h : root.objectFree = true) (keys : List Key) :
    ∃ result, walk root keys = .settled result :=
  exists_walk_eq_settled (not_meetsObject_of_objectFree h)

section

variable {m : Type → Type} [Monad m] (ask : Object → List Key → m DigResult)
  {result : DigResult}

theorem digWith_of_ne_nil (hk : keys ≠ []) :
    digWith ask root keys =
      match walk root keys with
      | .settled result => pure result
      | .handOver object rest => ask object rest := by
  have he : keys.isEmpty = false := by simpa using hk
  rw [digWith, he]
  rfl

theorem digWith_of_settled (hk : keys ≠ []) (h : walk root keys = .settled result) :
    digWith ask root keys = pure result := by
  rw [digWith_of_ne_nil ask hk, h]

theorem digWith_of_handOver (h : walk root keys = .handOver object rest) :
    digWith ask root keys = ask object rest := by
  have hk : keys ≠ [] := by
    intro hk
    subst hk
    cases h
  rw [digWith_of_ne_nil ask hk, h]

theorem digWith_congr {root' : Value} {keys' : List Key} (hk : keys ≠ []) (hk' : keys' ≠ [])
    (h : walk root keys = walk root' keys') : digWith ask root keys = digWith ask root' keys' := by
  rw [digWith_of_ne_nil ask hk, digWith_of_ne_nil ask hk', h]

end

end KeyPath
