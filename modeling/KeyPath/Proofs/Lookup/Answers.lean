import KeyPath.Proofs.Lookup.Outcome
/-!
# Who answers a lookup

A lookup is answered by walks among hashes and arrays, or by the custom object at the end of a
chain of wrapped values, each of which hands on the keys left for it. A walk finds no nil, and a
stored nil that it comes to is nothing. So a nil that is found is the answer of a custom object.
-/

namespace KeyPath

namespace Value

/-- Whether a value is no custom object. -/
def isNotCustom : Value → Bool
  | custom _ => false
  | _ => true

/-- Whether all objects in a value, those inside wrapped values included, are wrapped values. -/
def customFree (value : Value) : Bool := value.everywhere isNotCustom

end Value

/-- Keys lead to a custom object, which receives those that are left. Each wrapped value on the way
receives at least one key and follows the keys that it receives. -/
inductive Delegates : Value → List Key → ObjectRef → List Key → Prop where
  | custom {root : Value} {keys : List Key} {i : Nat} {ref : ObjectRef} :
      MeetsObject root keys i (.custom ref) → Delegates root keys ref (keys.drop i)
  | wrapped {root content : Value} {keys rest : List Key} {i id : Nat} {ref : ObjectRef} :
      MeetsObject root keys i (.wrapped id content) → Delegates content (keys.drop i) ref rest →
      Delegates root keys ref rest

/-- Keys lead from a value to a value through existing entries and positions, wrapped values being
entered. -/
inductive Through : Value → List Key → Value → Prop where
  | here {value : Value} : Through value [] value
  | step {value next target : Value} {key : Key} {rest : List Key} :
      Entry value key next → Through next rest target → Through value (key :: rest) target
  | enter {id : Nat} {content target : Value} {keys : List Key} :
      Through content keys target → Through (.wrapped id content) keys target

variable {root value container : Value} {keys before rest : List Key} {key : Key}
  {result : DigResult} {ref : ObjectRef}

private theorem MeetsObject.drop_ne_nil {i : Nat} {object : Object}
    (h : MeetsObject root keys i object) :
    keys.drop i ≠ [] := by
  have hi := h.1
  simpa using hi

private theorem ne_found_nil_of_walk_eq (h : walk root keys = .settled result) :
    result ≠ .ok (.found .nil) := by
  rintro rfl
  cases keys with
  | nil =>
    have hv : Lookup.ofValue root = .found .nil := by simpa [walk] using h
    by_cases hn : root = .nil
    · subst hn
      cases hv
    · rw [Lookup.ofValue_of_ne_nil hn] at hv
      exact hn (Lookup.found.inj hv)
  | cons key rest =>
    have ho := outcome_of_walk_eq_settled h (Or.inr (List.cons_ne_nil key rest))
    cases ho with
    | found _ hv => exact hv rfl

namespace Delegates

theorem suffix (h : Delegates root keys ref rest) : rest ≠ [] ∧ rest <:+ keys := by
  induction h with
  | custom hm => exact ⟨hm.drop_ne_nil, List.drop_suffix _ _⟩
  | wrapped hm _ ih =>
    obtain ⟨hne, hsuffix⟩ := ih
    exact ⟨hne, hsuffix.trans (List.drop_suffix _ _)⟩

theorem dig_eq {m : Type → Type} [Monad m] (respond : ObjectRef → List Key → m DigResult)
    (h : Delegates root keys ref rest) : dig respond root keys = respond ref rest := by
  induction h with
  | custom hm =>
    have hd := digWith_of_handOver (Object.answer respond) hm.walk_eq
    exact hd.trans (Object.answer_custom respond _ _)
  | wrapped hm _ ih =>
    have hd := digWith_of_handOver (Object.answer respond) hm.walk_eq
    exact (hd.trans (Object.answer_wrapped respond _ _ _)).trans ih

end Delegates

/-- A lookup is handed on to a custom object, or has a result in which no nil is found and which
does not depend on how custom objects answer. -/
theorem exists_delegates_or_dig_eq_pure (root : Value) (keys : List Key) :
    (∃ ref rest, Delegates root keys ref rest) ∨
      ∃ result, result ≠ .ok (.found .nil) ∧
        ∀ {m : Type → Type} [Monad m] (respond : ObjectRef → List Key → m DigResult),
          dig respond root keys = pure result := by
  by_cases hk : keys = []
  · subst hk
    exact Or.inr ⟨.error .noKeys, nofun, fun _ => rfl⟩
  cases hw : walk root keys with
  | settled result =>
    exact Or.inr ⟨result, ne_found_nil_of_walk_eq hw, fun _ => digWith_of_settled _ hk hw⟩
  | handOver object rest =>
    obtain ⟨i, hm, rfl⟩ := exists_meetsObject_of_walk_eq hw
    cases object with
    | custom ref => exact Or.inl ⟨ref, _, .custom hm⟩
    | wrapped id content =>
      have hsize : sizeOf content < sizeOf root := by
        have hle := sizeOf_le_of_walk_eq_handOver hw
        rw [Object.wrapped.sizeOf_spec] at hle
        omega
      -- the content is smaller than the root and follows the keys left
      rcases exists_delegates_or_dig_eq_pure content (keys.drop i) with
        ⟨ref, rest, hd⟩ | ⟨result, hne, hd⟩
      · exact Or.inl ⟨ref, rest, .wrapped hm hd⟩
      · refine Or.inr ⟨result, hne, ?_⟩
        intro m _ respond
        have hanswer := digWith_of_handOver (Object.answer respond) hw
        exact (hanswer.trans (Object.answer_wrapped respond id content _)).trans (hd respond)
termination_by sizeOf root

theorem exists_dig_eq_pure_of_not_delegates (h : ∀ ref rest, ¬ Delegates root keys ref rest) :
    ∃ result, result ≠ .ok (.found .nil) ∧
      ∀ {m : Type → Type} [Monad m] (respond : ObjectRef → List Key → m DigResult),
        dig respond root keys = pure result := by
  rcases exists_delegates_or_dig_eq_pure root keys with ⟨ref, rest, hd⟩ | hpure
  · exact absurd hd (h ref rest)
  · exact hpure

theorem not_delegates_of_customFree (h : root.customFree = true) :
    ¬ Delegates root keys ref rest := by
  intro hd
  induction hd with
  | custom hm =>
    have hobject := hm.2.everywhere h
    cases hobject
  | wrapped hm _ ih =>
    have hobject := hm.2.everywhere h
    rw [Object.toValue, Value.everywhere, Bool.and_eq_true] at hobject
    exact ih hobject.2

theorem not_delegates_of_objectFree (h : root.objectFree = true) :
    ¬ Delegates root keys ref rest := by
  intro hd
  cases hd with
  | custom hm => exact not_meetsObject_of_objectFree h _ _ hm
  | wrapped hm _ => exact not_meetsObject_of_objectFree h _ _ hm

namespace Through

theorem root_ne_nil (h : Through root keys value) (hv : value ≠ .nil) : root ≠ .nil := by
  cases h with
  | here => exact hv
  | step he _ => exact he.ne_nil
  | enter _ => exact nofun

variable {m : Type → Type} [Monad m] (respond : ObjectRef → List Key → m DigResult)

theorem dig_eq_behind (h : Through root before value) (hv : value ≠ .nil) (hr : rest ≠ []) :
    dig respond root (before ++ rest) = dig respond value rest := by
  induction h with
  | here => rfl
  | @step value next target key before he ht ih =>
    have hnext := ht.root_ne_nil hv
    have hw : walk value (key :: before ++ rest) = walk next (before ++ rest) :=
      walk_cons_of_entry he hnext
    have hd : dig respond value (key :: before ++ rest) = dig respond next (before ++ rest) :=
      digWith_congr _ (by simp) (by simp [hr]) hw
    exact hd.trans (ih hv)
  | @enter id content target keys _ ih =>
    obtain ⟨key, more, hkeys⟩ := List.exists_cons_of_ne_nil (l := keys ++ rest) (by simp [hr])
    have hw : walk (.wrapped id content) (keys ++ rest) =
        .handOver (.wrapped id content) (keys ++ rest) := by
      rw [hkeys]
      exact walk_cons_of_object rfl
    have hd := digWith_of_handOver (Object.answer respond) hw
    exact (hd.trans (Object.answer_wrapped respond id content _)).trans (ih hv)

theorem dig_eq_absent (h : Through root before container) (he : Entry container key .nil)
    (rest : List Key) : dig respond root (before ++ key :: rest) = pure (.ok .absent) := by
  have hk : key :: rest ≠ [] := List.cons_ne_nil key rest
  rw [h.dig_eq_behind respond he.ne_nil hk]
  exact digWith_of_settled _ hk (walk_cons_of_absent he.accepts (Or.inr he))

end Through

end KeyPath
