import KeyPath.Proofs.Lookup.Outcome
/-!
# Lookups in steps

Following the keys of one list after those of another is the same as following both at once. A
failure or an absence of the first lookup stands, a value found is where the second one starts,
and an object met on the way receives the keys of both.
-/

namespace KeyPath

variable {root : Value} {keys : List Key} {object : Object} {result : DigResult}

theorem MeetsObject.append {i : Nat} (h : MeetsObject root keys i object) (more : List Key) :
    MeetsObject root (keys ++ more) i object := by
  obtain ⟨hi, ha⟩ := h
  refine ⟨?_, ?_⟩
  · rw [List.length_append]
    omega
  · rwa [List.take_append_of_le_length (Nat.le_of_lt hi)]

theorem Outcome.append (h : Outcome root keys result) (hf : ∀ value, result ≠ .ok (.found value))
    (more : List Key) : Outcome root (keys ++ more) result := by
  cases h with
  | found ha hv => exact absurd rfl (hf _)
  | absent hs ha hm => exact .absent (hs.append more) ha hm
  | invalidIndex hs hk => exact .invalidIndex (hs.append more) hk
  | notDiggable hs hv => exact .notDiggable (hs.append more) hv

section

variable {m : Type → Type} [Monad m]

/-- Go on with further keys from the result of a lookup: from a value found, and from nothing
else. -/
def resume (respond : ObjectRef → List Key → m DigResult) (keys : List Key) :
    DigResult → m DigResult
  | .ok (.found value) => dig respond value keys
  | .ok .absent => pure (.ok .absent)
  | .error e => pure (.error e)

theorem dig_append_of_settled (respond : ObjectRef → List Key → m DigResult) {more : List Key}
    (hk : keys ≠ []) (hm : more ≠ []) (hw : walk root keys = .settled result) :
    dig respond root (keys ++ more) = resume respond more result := by
  have hs : keys ++ more ≠ [] := by simp [hk]
  have ho := (walk_eq_settled_iff hk).mp hw
  cases result with
  | error e => exact digWith_of_settled _ hs (ho.append (by simp) more).walk_eq
  | ok lookup =>
    cases lookup with
    | absent => exact digWith_of_settled _ hs (ho.append (by simp) more).walk_eq
    | found value =>
      cases ho with
      | found ha hv => exact digWith_congr _ hs hm (walk_append ha hv)

/-- A lookup with the keys of two lists is the lookup with the first, followed by the lookup with
the second from what was found. Where an object answers, it answers with the keys of both. -/
theorem dig_append (respond : ObjectRef → List Key → m DigResult) (root : Value)
    (keys more : List Key) (hk : keys ≠ []) (hm : more ≠ []) :
    ((∀ i object, ¬ MeetsObject root keys i object) →
      ∃ result, dig respond root keys = pure result ∧
        dig respond root (keys ++ more) = resume respond more result) ∧
    ∀ i object, MeetsObject root keys i object →
      dig respond root keys = object.answer respond (keys.drop i) ∧
        dig respond root (keys ++ more) = object.answer respond (keys.drop i ++ more) := by
  refine ⟨?_, ?_⟩
  · intro hn
    obtain ⟨result, hw⟩ := exists_walk_eq_settled hn
    exact ⟨result, digWith_of_settled _ hk hw, dig_append_of_settled respond hk hm hw⟩
  · intro i object ho
    refine ⟨digWith_of_handOver _ ho.walk_eq, ?_⟩
    have hw := (ho.append more).walk_eq
    rw [List.drop_append_of_le_length (Nat.le_of_lt ho.1)] at hw
    exact digWith_of_handOver _ hw

end

/-- An object on which the first keys end is where the next ones start; met earlier, it receives
the keys of both. -/
theorem dig_append_at_object :
    let spy : ObjectRef := ⟨0, "Spy"⟩
    let root := Value.hash [(.sym "a", .custom spy)]
    let respond : ObjectRef → List Key → Id DigResult :=
      fun _ keys => .ok (.found (.array (keys.map Value.ofKey)))
    (∀ i object, ¬ MeetsObject root [.sym "a"] i object) ∧
      MeetsObject root [.sym "a", .int 1] 1 (.custom spy) ∧
      dig respond root [.sym "a", .int 2] = .ok (.found (.array [.int 2])) ∧
      dig respond root [.sym "a", .int 1, .int 2] = .ok (.found (.array [.int 1, .int 2])) := by
  intro spy root respond
  have hn : ∀ i object, ¬ MeetsObject root [.sym "a"] i object := by
    intro i object hm
    have hw : walk root [.sym "a"] = .settled (.ok (.found (.custom spy))) := rfl
    rw [hm.walk_eq] at hw
    cases hw
  have hm : MeetsObject root [.sym "a", .int 1] 1 (.custom spy) :=
    ⟨by decide, .step (.hash (by simp [Object.toValue])) .here⟩
  have hq : ([.int 2] : List Key) ≠ [] := List.cons_ne_nil _ _
  obtain ⟨result, hd, hs⟩ :=
    (dig_append respond root [.sym "a"] [.int 2] (List.cons_ne_nil _ _) hq).1 hn
  have hb := (dig_append respond root [.sym "a", .int 1] [.int 2] (List.cons_ne_nil _ _) hq).2 1
    (.custom spy) hm
  refine ⟨hn, hm, ?_, ?_⟩
  · have hr : result = .ok (.found (.custom spy)) := hd.symm.trans rfl
    subst hr
    exact hs.trans (Object.answer_custom respond spy _)
  · exact hb.2.trans (Object.answer_custom respond spy _)

end KeyPath
