import KeyPath.Proofs.Lookup.Outcome
import KeyPath.Proofs.Value.Equality
/-!
# Lookups in equal values

Equal values without objects cannot be told apart by lookups: every key and every list of keys gives
the same failure in both, or nothing in both, or values that are equal again.
-/

namespace KeyPath

/-- Two results that fail in the same way, or that succeed and are related. -/
inductive Alike {α : Type} (related : α → α → Prop) : Except DigError α → Except DigError α → Prop
  | error (e : DigError) : Alike related (.error e) (.error e)
  | ok {a b : α} : related a b → Alike related (.ok a) (.ok b)

/-- Two outcomes that find nothing, or that find equal values. -/
inductive Lookup.Equal : Lookup → Lookup → Prop
  | absent : Equal absent absent
  | found {a b : Value} : (a == b) = true → Equal (found a) (found b)

/-- Two entries that are missing, or that are there and equal. -/
abbrev EqualEntries : Option Value → Option Value → Prop := Option.Rel fun a b => (a == b) = true

variable {a b : Value}

namespace Value

private theorem length_eq_of_beqItems {items others : List Value}
    (h : beqItems items others = true) :
    items.length = others.length := by
  induction items generalizing others with
  | nil =>
    cases others with
    | nil => rfl
    | cons first others => cases h
  | cons item items ih =>
    cases others with
    | nil => cases h
    | cons first others => exact congrArg Nat.succ (ih (Bool.and_eq_true_iff.mp h).2)

private theorem equalEntries_getElem? {items others : List Value} (h : beqItems items others = true)
    (i : Nat) : EqualEntries items[i]? others[i]? := by
  induction items generalizing others i with
  | nil =>
    cases others with
    | nil => exact .none
    | cons first others => cases h
  | cons item items ih =>
    cases others with
    | nil => cases h
    | cons first others =>
      obtain ⟨hfirst, hrest⟩ := Bool.and_eq_true_iff.mp h
      cases i with
      | zero => exact .some hfirst
      | succ i => exact ih hrest i

private theorem equalEntries_lookup {entries others : List (Key × Value)}
    (hkeys : others.map Prod.fst = entries.map Prod.fst)
    (hvalues : beqItems (entries.map Prod.snd) (others.map Prod.snd) = true) (key : Key) :
    EqualEntries (entries.lookup key) (others.lookup key) := by
  induction entries generalizing others with
  | nil =>
    obtain rfl := List.map_eq_nil_iff.mp hkeys
    exact .none
  | cons entry entries ih =>
    cases others with
    | nil => cases hkeys
    | cons first others =>
      obtain ⟨hkey, hkeys⟩ := List.cons.inj hkeys
      obtain ⟨hvalue, hvalues⟩ := Bool.and_eq_true_iff.mp hvalues
      rw [List.lookup_cons, List.lookup_cons, hkey]
      cases key == entry.1 with
      | true => exact .some hvalue
      | false => exact ih hkeys hvalues

private theorem isNil_eq_of_beq (h : (a == b) = true) : b.isNil = a.isNil := by
  cases a using comparison with
  | exact a ha => rw [(beq_iff_of_isExact ha).mp h]
  | float x =>
    obtain ⟨y, rfl, _⟩ := beq_float_iff.mp h
    rfl
  | object object =>
    obtain ⟨same, rfl, _⟩ := beq_object_iff.mp h
    cases object <;> cases same <;> rfl
  | array items =>
    obtain ⟨others, rfl, _⟩ := beq_array_iff.mp h
    rfl
  | hash entries =>
    obtain ⟨others, rfl, _⟩ := beq_hash_iff.mp h
    rfl

private theorem object?_eq_none_of_beq (h : (a == b) = true) (ho : a.object? = none) :
    b.object? = none := by
  cases hb : b.object? with
  | none => rfl
  | some object =>
    rw [object?_eq_some_iff] at hb
    subst hb
    obtain ⟨same, rfl, _⟩ := beq_object_iff.mp (beq_symm h)
    rw [Object.object?_toValue] at ho
    cases ho

theorem index_alike (h : (a == b) = true) (ho : a.object? = none) (key : Key) :
    Alike EqualEntries (a.index key) (b.index key) := by
  cases a using comparison with
  | exact a ha =>
    have hscalar : a.isScalar = true := by
      cases a with
      | float | array | hash | wrapped | custom => cases ha
      | _ => rfl
    rw [(beq_iff_of_isExact ha).mp h, index_of_isScalar hscalar]
    exact .error _
  | float x =>
    obtain ⟨y, rfl, _⟩ := beq_float_iff.mp h
    exact .error _
  | object object =>
    rw [Object.object?_toValue] at ho
    cases ho
  | array items =>
    obtain ⟨others, rfl, hitems⟩ := beq_array_iff.mp h
    rw [Value.index, Value.index, length_eq_of_beqItems hitems]
    cases resolveIndex key others.length with
    | error e => exact .error e
    | ok place =>
      cases place with
      | none => exact .ok .none
      | some i => exact .ok (equalEntries_getElem? hitems i)
  | hash entries =>
    obtain ⟨others, rfl, hkeys, hvalues⟩ := beq_hash_iff.mp h
    rw [Value.index, Value.index, Assoc.get?_eq_lookup, Assoc.get?_eq_lookup]
    exact .ok (equalEntries_lookup hkeys hvalues key)

end Value

open Value

private theorem Lookup.equal_ofValue (h : (a == b) = true) : (ofValue a).Equal (ofValue b) := by
  rw [ofValue, ofValue, isNil_eq_of_beq h]
  cases a.isNil with
  | true => exact .absent
  | false => exact .found h

theorem walk_alike (h : (a == b) = true) (ho : a.objectFree = true) (keys : List Key) :
    ∃ result result', walk a keys = .settled result ∧ walk b keys = .settled result' ∧
      Alike Lookup.Equal result result' := by
  induction keys generalizing a b with
  | nil => exact ⟨_, _, rfl, rfl, .ok (Lookup.equal_ofValue h)⟩
  | cons key rest ih =>
    have hobject := object?_of_objectFree ho
    have hindex := index_alike h hobject key
    rw [walk, walk, hobject, object?_eq_none_of_beq h hobject]
    dsimp only
    generalize ha : a.index key = found at hindex
    generalize b.index key = found' at hindex
    cases hindex with
    | error e => exact ⟨_, _, rfl, rfl, .error e⟩
    | ok hentries =>
      cases hentries with
      | none => exact ⟨_, _, rfl, rfl, .ok .absent⟩
      | @some next next' hnext =>
        have hfree : next.objectFree = true := (index_eq_some_iff.mp ha).everywhere ho
        dsimp only
        rw [isNil_eq_of_beq hnext]
        cases next.isNil with
        | true => exact ⟨_, _, rfl, rfl, .ok .absent⟩
        | false => exact ih hnext hfree

theorem dig_alike {m : Type → Type} [Monad m] (respond : ObjectRef → List Key → m DigResult)
    (h : (a == b) = true) (ho : a.objectFree = true) (keys : List Key) :
    ∃ result result', dig respond a keys = pure result ∧ dig respond b keys = pure result' ∧
      Alike Lookup.Equal result result' := by
  by_cases hk : keys = []
  · subst hk
    exact ⟨_, _, rfl, rfl, .error .noKeys⟩
  · obtain ⟨result, result', hw, hw', halike⟩ := walk_alike h ho keys
    exact ⟨result, result', digWith_of_settled _ hk hw, digWith_of_settled _ hk hw', halike⟩

/-- Equality is symmetric and transitive, and a value equals itself unless a NaN stands in it
outside objects. An object equals itself, whatever is inside it, and nothing else. Equal values
without objects give the same failure, or nothing, or equal values for every key and for all keys in
a row. -/
theorem equal_values_alike {m : Type → Type} [Monad m]
    (respond : ObjectRef → List Key → m DigResult) :
    (∀ a b : Value, (a == b) = (b == a)) ∧
    (∀ a b c : Value, (a == b) = true → (b == c) = true → (a == c) = true) ∧
    (∀ value : Value, (value == value) = true ↔ ¬ Inside (.float .nan) value) ∧
    (∀ (object : Object) (value : Value), (object.toValue == value) = true ↔
      ∃ same : Object, value = same.toValue ∧ same.identity = object.identity) ∧
    ∀ a b : Value, a.objectFree = true → (a == b) = true →
      (∀ key, Alike EqualEntries (a.index key) (b.index key)) ∧
      ∀ keys, ∃ result result', dig respond a keys = pure result ∧
        dig respond b keys = pure result' ∧ Alike Lookup.Equal result result' := by
  refine ⟨fun _ _ => BEq.comm, fun _ _ _ => beq_trans, fun _ => beq_self_iff,
    fun _ _ => beq_object_iff, ?_⟩
  intro a b ho h
  exact ⟨index_alike h (object?_of_objectFree ho), dig_alike respond h ho⟩

/-- The two zeros are equal, and lookups in equal arrays find the one or the other. A NaN inside an
array keeps the array from being equal to itself, but not inside an object. -/
theorem equal_values_alike_zeros :
    let zeros (negative : Bool) : Value :=
      .hash [(.sym "z", .array [.float (.zero negative), .float (.zero false)])]
    let keys : List Key := [.sym "z", .int (-2)]
    let wrapped : Value := .wrapped 0 (.float .nan)
    (zeros false).objectFree = true ∧ (zeros false == zeros true) = true ∧
      (zeros true == zeros false) = true ∧ (zeros false == zeros false) = true ∧
      (∃ a b : Value, (a == b) = true ∧
        Id.run (dig (fun _ _ => .error .noKeys) (zeros false) keys) = .ok (.found a) ∧
        Id.run (dig (fun _ _ => .error .noKeys) (zeros true) keys) = .ok (.found b)) ∧
      Inside (.float .nan) (.array [.float .nan]) ∧
      (Value.array [.float .nan] == .array [.float .nan]) = false ∧
      (Value.array [wrapped] == .array [wrapped]) = true := by
  intro zeros keys wrapped
  obtain ⟨_, htrans, hself, _, hcongr⟩ :=
    equal_values_alike (m := Id) (fun _ _ => .error .noKeys)
  have hfree : (zeros false).objectFree = true := by decide
  have hequal : (zeros false == zeros true) = true := by decide
  have hequal' : (zeros true == zeros false) = true := by decide
  have hnan : Inside (.float .nan) (.array [.float .nan]) :=
    .item (List.mem_singleton.mpr rfl) .here
  refine ⟨hfree, hequal, hequal', htrans _ _ _ hequal hequal', ?_, hnan, ?_, ?_⟩
  · obtain ⟨result, result', hd, hd', halike⟩ := (hcongr _ _ hfree hequal).2 keys
    cases halike with
    | error e => cases hd
    | ok hfound =>
      cases hfound with
      | absent => cases hd
      | found hab => exact ⟨_, _, hab, hd, hd'⟩
  · rw [Bool.eq_false_iff]
    exact fun h => (hself _).mp h hnan
  · refine (hself _).mpr ?_
    intro hi
    cases hi with
    | item hm hi =>
      rw [List.mem_singleton.mp hm] at hi
      have hi : Inside (.float .nan) (.wrapped 0 (.float .nan)) := hi
      cases hi

end KeyPath
