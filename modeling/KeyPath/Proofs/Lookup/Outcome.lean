import KeyPath.Proofs.Lookup.Walk
/-!
# The outcome of a lookup

Among values without objects, the outcome of a lookup is fixed by the first position at which
the keys are blocked, and by the value they address if no position blocks them. The relation
`Outcome` says so without a walk, and a walk settles with the outcome it relates to the keys.
-/

namespace KeyPath

/-- What the keys come to, in terms of the values that their prefixes address. -/
inductive Outcome (root : Value) (keys : List Key) : DigResult → Prop where
  | found {value : Value} :
      Addresses root keys value → value ≠ .nil → Outcome root keys (.ok (.found value))
  /-- A container takes the key, but has no entry there or a nil. -/
  | absent {i : Nat} {container : Value} {key : Key} :
      StandsOn root keys i container key → container.accepts key = true →
      (∀ next, ¬ Entry container key next) ∨ Entry container key .nil →
      Outcome root keys (.ok .absent)
  | invalidIndex {i : Nat} {items : List Value} {key : Key} :
      StandsOn root keys i (.array items) key → key.asIndex? = none →
      Outcome root keys (.error (.invalidIndex key))
  | notDiggable {i : Nat} {scalar : Value} {key : Key} :
      StandsOn root keys i scalar key → scalar.isScalar = true →
      Outcome root keys (.error (.notDiggable scalar.typeName key))

/-- A position blocks the keys when its own key leads to nothing but nil. -/
def BlockedAt (root : Value) (keys : List Key) (i : Nat) : Prop :=
  ∃ value key, StandsOn root keys i value key ∧ ∀ next, Entry value key next → next = .nil

variable {root value next : Value} {key : Key} {keys rest : List Key} {result : DigResult}

theorem Outcome.cons (he : Entry root key next) (hn : next ≠ .nil)
    (h : Outcome next rest result) : Outcome root (key :: rest) result := by
  cases h with
  | found ha hv => exact .found (.step he ha) hv
  | absent hs ha hm => exact .absent (hs.succ he hn) ha hm
  | invalidIndex hs hk => exact .invalidIndex (hs.succ he hn) hk
  | notDiggable hs hv => exact .notDiggable (hs.succ he hn) hv

theorem Outcome.walk_eq (h : Outcome root keys result) : walk root keys = .settled result := by
  cases h with
  | @found value ha hv =>
    have hw : walk root (keys ++ []) = walk value [] := walk_append ha hv
    rw [List.append_nil] at hw
    rw [hw, walk, Lookup.ofValue_of_ne_nil hv]
  | absent hs ha hm => rw [hs.walk_eq, walk_cons_of_absent ha hm]
  | invalidIndex hs hk => rw [hs.walk_eq, walk_cons_of_invalidIndex hk]
  | notDiggable hs hv => rw [hs.walk_eq, walk_cons_of_isScalar hv]

/-- A walk that takes a key, or starts on a value other than nil, settles as its keys say. -/
theorem outcome_of_walk_eq_settled (h : walk root keys = .settled result)
    (hr : root ≠ .nil ∨ keys ≠ []) : Outcome root keys result := by
  induction keys generalizing root with
  | nil =>
    have hn : root ≠ .nil := hr.resolve_right (fun hk => hk rfl)
    rw [walk, Walk.settled.injEq, Lookup.ofValue_of_ne_nil hn] at h
    subst h
    exact .found .here hn
  | cons key rest ih =>
    have hs := StandsOn.zero root key rest
    cases keyStep root key with
    | object object ho =>
      rw [walk_cons_of_object ho] at h
      cases h
    | invalidIndex items hv hk =>
      subst hv
      rw [walk_cons_of_invalidIndex hk] at h
      cases h
      exact .invalidIndex hs hk
    | notDiggable hv =>
      rw [walk_cons_of_isScalar hv] at h
      cases h
      exact .notDiggable hs hv
    | absent ha hm =>
      rw [walk_cons_of_absent ha hm] at h
      cases h
      exact .absent hs ha hm
    | entry next he hn =>
      rw [walk_cons_of_entry he hn] at h
      exact (ih h (Or.inl hn)).cons he hn

theorem walk_eq_settled_iff (hk : keys ≠ []) :
    walk root keys = .settled result ↔ Outcome root keys result :=
  ⟨fun h => outcome_of_walk_eq_settled h (Or.inr hk), Outcome.walk_eq⟩

private theorem walk_cons_of_blocked (ho : root.object? = none)
    (hb : ∀ next, Entry root key next → next = .nil) (rest : List Key) :
    walk root (key :: rest) = walk root [key] := by
  cases keyStep root key with
  | object object hv =>
    rw [ho] at hv
    cases hv
  | invalidIndex items hv hk =>
    subst hv
    rw [walk_cons_of_invalidIndex hk, walk_cons_of_invalidIndex hk]
  | notDiggable hv => rw [walk_cons_of_isScalar hv, walk_cons_of_isScalar hv]
  | absent ha hm => rw [walk_cons_of_absent ha hm, walk_cons_of_absent ha hm]
  | entry next he hn => exact absurd (hb next he) hn

private theorem BlockedAt.walk_take_append {i : Nat} (h : BlockedAt root keys i)
    (ho : root.objectFree = true) (tail : List Key) :
    walk root (keys.take (i + 1) ++ tail) = walk root keys := by
  obtain ⟨value, key, hs, hb⟩ := h
  have hv : value.object? = none :=
    Value.object?_of_objectFree (hs.addresses.everywhere ho)
  rw [hs.walk_eq, (hs.take.append tail).walk_eq]
  exact (walk_cons_of_blocked hv hb _).trans (walk_cons_of_blocked hv hb _).symm

theorem walk_singleton (ho : value.object? = none) (key : Key) :
    walk value [key] = .settled ((value.index key).map Lookup.ofOption) := by
  rw [walk, ho]
  cases value.index key with
  | error e => rfl
  | ok found =>
    cases found with
    | none => rfl
    | some next => cases next <;> rfl

/-- A lookup among values without objects has the one outcome that the values addressed by the
prefixes of its keys fix; keys behind a blocking position do not count. A single key is access by
that key, whatever lies deeper. -/
theorem dig_eq_outcome {m : Type → Type} [Monad m] (respond : ObjectRef → List Key → m DigResult) :
    (∀ root keys, root.objectFree = true → keys ≠ [] →
      ∃ result, dig respond root keys = pure result ∧
        (∀ other, Outcome root keys other ↔ other = result) ∧
        ∀ i tail, BlockedAt root keys i →
          dig respond root (keys.take (i + 1) ++ tail) = pure result) ∧
    ∀ value key, value.object? = none →
      dig respond value [key] = pure ((value.index key).map Lookup.ofOption) := by
  refine ⟨?_, ?_⟩
  · intro root keys ho hk
    obtain ⟨result, hw⟩ := exists_walk_eq_settled (not_meetsObject_of_objectFree ho)
    refine ⟨result, digWith_of_settled _ hk hw, ?_, ?_⟩
    · intro other
      rw [← walk_eq_settled_iff hk, hw, Walk.settled.injEq]
      exact eq_comm
    · intro i tail hb
      have ht : keys.take (i + 1) ++ tail ≠ [] := by simp [hk]
      exact digWith_of_settled _ ht ((hb.walk_take_append ho tail).trans hw)
  · intro value key ho
    exact digWith_of_settled _ (List.cons_ne_nil key []) (walk_singleton ho key)

/-- A nil inside an array ends the lookup, and a key of the wrong kind behind it does not fail. -/
theorem dig_eq_outcome_nil_inside :
    let root := Value.hash [(.sym "a", .array [.nil, .int 1])]
    let keys := [.sym "a", .int (-2), .sym "deeper"]
    root.objectFree = true ∧ keys ≠ [] ∧
      Outcome root keys (.ok .absent) ∧
      dig (m := Id) (fun _ _ => .error .noKeys) root keys = .ok .absent := by
  intro root keys
  have ho : root.objectFree = true := by decide
  have hk : keys ≠ [] := List.cons_ne_nil _ _
  have ha : Entry root (.sym "a") (.array [.nil, .int 1]) := .hash (by simp)
  have hi : Entry (.array [.nil, .int 1]) (.int (-2)) .nil :=
    @Entry.array _ _ 0 _ rfl (Or.inr (by decide))
  have hs : StandsOn root keys 1 (.array [.nil, .int 1]) (.int (-2)) :=
    ⟨rfl, .step ha .here, fun hn => by cases hn⟩
  have hr : Outcome root keys (.ok .absent) := .absent hs rfl (Or.inr hi)
  obtain ⟨result, hd, hu, _⟩ :=
    (dig_eq_outcome (m := Id) (fun _ _ => .error .noKeys)).1 root keys ho hk
  refine ⟨ho, hk, hr, ?_⟩
  rw [hd, (hu _).mp hr]
  rfl

end KeyPath
