import KeyPath.Proofs.Lookup.Walk
/-!
# Wrapped values

A wrapped value digs like its content. Replacing every wrapper by its content therefore changes
no lookup, but for wrappers inside the value found. Wrappers of nil are the exception: a wrapper
is found where a nil is absent, and takes keys where a nil ends a walk.
-/

namespace KeyPath

namespace Value

mutual

/-- Replace every wrapper by its content. -/
def erase : Value → Value
  | array items => array (eraseItems items)
  | hash entries => hash (eraseEntries entries)
  | wrapped _ content => erase content
  | nil => nil
  | bool b => bool b
  | int i => int i
  | float x => float x
  | str text => str text
  | sym name => sym name
  | custom object => custom object

def eraseItems : List Value → List Value
  | [] => []
  | item :: rest => item.erase :: eraseItems rest

def eraseEntries : List (Key × Value) → List (Key × Value)
  | [] => []
  | (key, value) :: rest => (key, value.erase) :: eraseEntries rest

end

/-- Whether a value is no custom object and no wrapper that comes down to nil. -/
def hasContent : Value → Bool
  | wrapped _ content => !content.erase.isNil
  | custom _ => false
  | _ => true

/-- Whether all objects are wrapped values, none of which comes down to nil. -/
def transparent (value : Value) : Bool := value.everywhere hasContent

private theorem eraseItems_eq_map (items : List Value) : eraseItems items = items.map erase := by
  induction items with
  | nil => rfl
  | cons item rest ih => rw [eraseItems, ih, List.map_cons]

private theorem lookup_eraseEntries (key : Key) (entries : List (Key × Value)) :
    (eraseEntries entries).lookup key = (entries.lookup key).map erase := by
  induction entries with
  | nil => rfl
  | cons entry rest ih =>
    obtain ⟨key', value⟩ := entry
    rw [eraseEntries, List.lookup_cons, List.lookup_cons, ih]
    cases key == key' <;> rfl

mutual

private theorem objectFree_erase (value : Value) (h : value.transparent = true) :
    value.erase.objectFree = true := by
  cases value with
  | array items =>
    rw [transparent, everywhere, Bool.and_eq_true] at h
    rw [erase, objectFree, everywhere, Bool.and_eq_true]
    exact ⟨rfl, objectFree_eraseItems items h.2⟩
  | hash entries =>
    rw [transparent, everywhere, Bool.and_eq_true] at h
    rw [erase, objectFree, everywhere, Bool.and_eq_true]
    exact ⟨rfl, objectFree_eraseEntries entries h.2⟩
  | wrapped id content =>
    rw [transparent, everywhere, Bool.and_eq_true] at h
    rw [erase]
    exact objectFree_erase content h.2
  | custom ref => cases h
  | _ =>
    rw [erase]
    rfl

private theorem objectFree_eraseItems (items : List Value)
    (h : everywhereItems hasContent items = true) :
    everywhereItems isPlain (eraseItems items) = true := by
  cases items with
  | nil => rfl
  | cons item rest =>
    rw [everywhereItems, Bool.and_eq_true] at h
    rw [eraseItems, everywhereItems, Bool.and_eq_true]
    exact ⟨objectFree_erase item h.1, objectFree_eraseItems rest h.2⟩

private theorem objectFree_eraseEntries (entries : List (Key × Value))
    (h : everywhereEntries hasContent entries = true) :
    everywhereEntries isPlain (eraseEntries entries) = true := by
  cases entries with
  | nil => rfl
  | cons entry rest =>
    obtain ⟨key, value⟩ := entry
    rw [everywhereEntries, Bool.and_eq_true] at h
    rw [eraseEntries, everywhereEntries, Bool.and_eq_true]
    exact ⟨objectFree_erase value h.1, objectFree_eraseEntries rest h.2⟩

end

private theorem erase_of_isScalar {value : Value} (h : value.isScalar = true) :
    value.erase = value := by
  cases value <;> simp_all [isScalar, erase]

private theorem accepts_erase {value : Value} {key : Key} (h : value.accepts key = true) :
    value.erase.accepts key = true := by
  cases value with
  | hash entries => rw [erase]; rfl
  | array items =>
    cases key with
    | int index => rw [erase]; rfl
    | _ => cases h
  | _ => cases h

private theorem erase_eq_nil {value : Value} (ht : value.transparent = true)
    (h : value.erase = nil) :
    value = nil := by
  cases value with
  | nil => rfl
  | wrapped id content =>
    have hw := test_of_everywhere ht
    rw [erase] at h
    rw [hasContent, h] at hw
    cases hw
  | _ => simp [erase] at h

end Value

open Value

variable {root value next : Value} {key : Key}

private theorem Entry.erase (h : Entry value key next) : Entry value.erase key next.erase := by
  cases h with
  | hash hl =>
    rw [Value.erase]
    exact .hash (by rw [lookup_eraseEntries, hl]; rfl)
  | @array items index position _ hi hp =>
    rw [Value.erase, eraseItems_eq_map]
    refine @Entry.array _ _ position _ ?_ ?_
    · rw [List.getElem?_map, hi]
      rfl
    · rwa [List.length_map]

private theorem Entry.of_erase (ho : value.object? = none) (h : Entry value.erase key next) :
    ∃ found, Entry value key found ∧ found.erase = next := by
  cases value with
  | hash entries =>
    rw [Value.erase] at h
    cases h with
    | hash hl =>
      rw [lookup_eraseEntries, Option.map_eq_some_iff] at hl
      obtain ⟨found, hf, he⟩ := hl
      exact ⟨found, .hash hf, he⟩
  | array items =>
    rw [Value.erase, eraseItems_eq_map] at h
    cases h with
    | array hi hp =>
      rw [List.getElem?_map, Option.map_eq_some_iff] at hi
      rw [List.length_map] at hp
      obtain ⟨found, hf, he⟩ := hi
      exact ⟨found, .array hf hp, he⟩
  | wrapped id content => cases ho
  | custom ref => cases ho
  | _ =>
    rw [Value.erase] at h
    cases h

/-- The result with wrappers erased from the value found. -/
def Lookup.erase : Lookup → Lookup
  | found value => .found value.erase
  | absent => .absent

private theorem Lookup.ofValue_erase (ht : value.transparent = true) :
    ofValue value.erase = (ofValue value).erase := by
  by_cases hn : value = .nil
  · subst hn
    rfl
  · have he : value.erase ≠ .nil := fun h => hn (erase_eq_nil ht h)
    rw [ofValue_of_ne_nil hn, ofValue_of_ne_nil he]
    rfl

theorem walk_erase (ht : root.transparent = true) (keys : List Key) :
    walk root.erase keys =
      match walk root keys with
      | .settled result => .settled (result.map Lookup.erase)
      | .handOver object rest => walk object.toValue.erase rest := by
  induction keys generalizing root with
  | nil =>
    rw [walk, walk, Lookup.ofValue_erase ht]
    rfl
  | cons key rest ih =>
    cases keyStep root key with
    | object object ho =>
      rw [walk_cons_of_object ho, Value.object?_eq_some_iff.mp ho]
    | invalidIndex items hv hk =>
      subst hv
      rw [Value.erase, walk_cons_of_invalidIndex hk, walk_cons_of_invalidIndex hk]
      rfl
    | notDiggable hv =>
      rw [erase_of_isScalar hv, walk_cons_of_isScalar hv]
      rfl
    | absent ha hm =>
      have he : (∀ next, ¬ Entry root.erase key next) ∨ Entry root.erase key .nil := by
        rcases hm with hm | hm
        · refine Or.inl ?_
          intro next hx
          obtain ⟨found, hf, _⟩ := Entry.of_erase (object?_of_accepts ha) hx
          exact hm found hf
        · exact Or.inr hm.erase
      rw [walk_cons_of_absent ha hm, walk_cons_of_absent (accepts_erase ha) he]
      rfl
    | entry next he hn =>
      have htn : next.transparent = true := he.everywhere ht
      have hne : next.erase ≠ .nil := fun h => hn (erase_eq_nil htn h)
      rw [walk_cons_of_entry he hn, walk_cons_of_entry he.erase hne]
      exact ih htn

/-- An object met in a transparent value is a wrapper of a smaller transparent value. -/
private theorem exists_wrapped_of_walk_eq {keys rest : List Key} {object : Object}
    (ht : root.transparent = true) (h : walk root keys = .handOver object rest) :
    ∃ id content, object = .wrapped id content ∧ content.transparent = true ∧
      sizeOf content < sizeOf root ∧ rest ≠ [] := by
  obtain ⟨i, ⟨hi, ha⟩, hr⟩ := exists_meetsObject_of_walk_eq h
  have hrest : rest ≠ [] := by simpa [hr] using hi
  have hobj := ha.everywhere ht
  have hsize := sizeOf_le_of_walk_eq_handOver h
  cases object with
  | wrapped id content =>
    refine ⟨id, content, rfl, ?_, ?_, hrest⟩
    · rw [Object.toValue, everywhere, Bool.and_eq_true] at hobj
      exact hobj.2
    · simp only [Object.wrapped.sizeOf_spec] at hsize
      omega
  | custom ref =>
    have hw := test_of_everywhere hobj
    cases hw

theorem exists_dig_eq_erase (root : Value) (ht : root.transparent = true) (keys : List Key) :
    ∃ result, ∀ {m : Type → Type} [Monad m] (respond : ObjectRef → List Key → m DigResult),
      dig respond root keys = pure result ∧
        dig respond root.erase keys = pure (result.map Lookup.erase) := by
  by_cases hk : keys = []
  · subst hk
    exact ⟨.error .noKeys, fun _ => ⟨rfl, rfl⟩⟩
  have he := walk_erase ht keys
  cases hw : walk root keys with
  | settled result =>
    rw [hw] at he
    exact ⟨result, fun _ => ⟨digWith_of_settled _ hk hw, digWith_of_settled _ hk he⟩⟩
  | handOver object rest =>
    rw [hw] at he
    obtain ⟨id, content, rfl, hc, hsize, hrest⟩ := exists_wrapped_of_walk_eq ht hw
    -- the keys left are followed in the content, which is smaller than the root
    obtain ⟨result, hd⟩ := exists_dig_eq_erase content hc rest
    refine ⟨result, ?_⟩
    intro m _ respond
    have hh : dig respond root keys = (Object.wrapped id content).answer respond rest :=
      digWith_of_handOver _ hw
    have hwe : walk root.erase keys = walk content.erase rest := he
    rw [hh, Object.answer_wrapped]
    exact ⟨(hd respond).1, (digWith_congr _ hk hrest hwe).trans (hd respond).2⟩
termination_by sizeOf root

/-- Where all objects are wrapped values and none comes down to nil, erasing the wrappers leaves
no objects, erases them from a value found and changes no result otherwise. -/
theorem dig_erase (root : Value) (ht : root.transparent = true) :
    root.erase.objectFree = true ∧
      ∀ keys, ∃ result, ∀ {m : Type → Type} [Monad m]
        (respond : ObjectRef → List Key → m DigResult),
        dig respond root keys = pure result ∧
          dig respond root.erase keys = pure (result.map Lookup.erase) :=
  ⟨objectFree_erase root ht, exists_dig_eq_erase root ht⟩

/-- Wrappers at the root, inside others and around the value found. -/
theorem dig_erase_nested :
    let inner := Value.hash [(.sym "b", .wrapped 3 (.int 42))]
    let root := Value.wrapped 0 (.hash [(.sym "a", .array [.wrapped 1 (.wrapped 2 inner)])])
    let keys := [.sym "a", .int (-1), .sym "b"]
    root.transparent = true ∧
      dig (m := Id) (fun _ _ => .error .noKeys) root.erase keys = .ok (.found (.int 42)) ∧
      ∃ result, dig (m := Id) (fun _ _ => .error .noKeys) root keys = result ∧
        result.map Lookup.erase = .ok (.found (.int 42)) := by
  intro inner root keys
  have ht : root.transparent = true := by decide
  have he : dig (m := Id) (fun _ _ => .error .noKeys) root.erase keys =
      .ok (.found (.int 42)) := rfl
  obtain ⟨result, hd⟩ := (dig_erase root ht).2 keys
  have hr := hd (m := Id) (fun _ _ => .error .noKeys)
  exact ⟨ht, he, result, hr.1, hr.2.symm.trans he⟩

/-- A wrapped nil is found, a nil is absent. -/
example : walk (.array [.wrapped 0 .nil]) [.int 0] = .settled (.ok (.found (.wrapped 0 .nil))) ∧
    walk (Value.array [.wrapped 0 .nil]).erase [.int 0] = .settled (.ok .absent) :=
  ⟨rfl, rfl⟩

end KeyPath
