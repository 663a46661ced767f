import KeyPath.Proofs.Lookup.Walk
import KeyPath.Value.Equality
/-!
# Calls to objects

A walk calls at most one object, once, with all the keys that are left, and returns its answer
as it is. A sequence of lookups therefore issues one call for each lookup that meets an object
with a key left, in the order of the lookups. Objects may answer with effects of any kind.
-/

namespace KeyPath

/-- What tells one object from another. Wrapped values and custom objects are numbered apart. -/
inductive Identity where
  | wrapped (id : Nat)
  | custom (id : Nat)
  deriving DecidableEq

def Object.identity : Object → Identity
  | wrapped id _ => .wrapped id
  | custom ref => .custom ref.id

theorem Object.toValue_beq_iff {a b : Object} :
    (a.toValue == b.toValue) = true ↔ a.identity = b.identity := by
  change Value.beq a.toValue b.toValue = true ↔ _
  cases a <;> cases b <;> simp [toValue, identity, Value.beq]

/-- A call that a walk issues. -/
structure Call where
  object : Object
  keys : List Key

/-- The keys of a call, if the call goes to a given object. -/
def Call.keysTo (identity : Identity) (call : Call) : Option (List Key) :=
  if call.object.identity = identity then some call.keys else none

/-- The call that following keys from a value issues, if any. -/
def issued (root : Value) (keys : List Key) : Option Call :=
  match walk root keys with
  | .settled _ => none
  | .handOver object rest => some ⟨object, rest⟩

/-- The keys that a lookup hands to a given object, if it meets that object first. -/
def keysHanded (identity : Identity) (root : Value) (keys : List Key) : Option (List Key) :=
  (issued root keys).bind (Call.keysTo identity)

variable {m : Type → Type} [Monad m]

/-- Objects that answer as before, with a note of each call. -/
def traced (ask : Object → List Key → m DigResult) (object : Object) (keys : List Key) :
    StateT (List Call) m DigResult := do
  modify (· ++ [⟨object, keys⟩])
  ask object keys

variable {root : Value} {keys rest : List Key} {object : Object}

private theorem issued_eq_some_iff {call : Call} :
    issued root keys = some call ↔
      ∃ i, MeetsObject root keys i call.object ∧ call.keys = keys.drop i := by
  obtain ⟨object, rest⟩ := call
  rw [← walk_eq_handOver_iff, issued]
  cases walk root keys <;> simp

private theorem keysHanded_eq_some_iff {identity : Identity} :
    keysHanded identity root keys = some rest ↔
      ∃ object i, MeetsObject root keys i object ∧ object.identity = identity ∧
        rest = keys.drop i := by
  rw [keysHanded, Option.bind_eq_some_iff]
  constructor
  · rintro ⟨⟨object, given⟩, hc, hk⟩
    obtain ⟨i, hm, hd⟩ := issued_eq_some_iff.mp hc
    simp only [Call.keysTo, Option.ite_none_right_eq_some, Option.some.injEq] at hk
    exact ⟨object, i, hm, hk.1, hk.2 ▸ hd⟩
  · rintro ⟨object, i, hm, ho, hr⟩
    refine ⟨⟨object, rest⟩, issued_eq_some_iff.mpr ⟨i, hm, hr⟩, ?_⟩
    rw [Call.keysTo, if_pos ho]

private theorem issued_eq_none_iff :
    issued root keys = none ↔ ∀ i object, ¬ MeetsObject root keys i object := by
  rw [Option.eq_none_iff_forall_ne_some]
  constructor
  · intro h i object hm
    exact h ⟨object, keys.drop i⟩ (issued_eq_some_iff.mpr ⟨i, hm, rfl⟩)
  · intro h call hc
    obtain ⟨i, hm, _⟩ := issued_eq_some_iff.mp hc
    exact h i call.object hm

theorem exists_digWith_eq_pure (hn : ∀ i object, ¬ MeetsObject root keys i object) :
    ∃ result, ∀ {n : Type → Type} [Monad n] (ask : Object → List Key → n DigResult),
      digWith ask root keys = pure result := by
  cases keys with
  | nil => exact ⟨.error .noKeys, fun _ => rfl⟩
  | cons key keys =>
    obtain ⟨result, hw⟩ := exists_walk_eq_settled hn
    exact ⟨result, fun ask => digWith_of_settled ask (List.cons_ne_nil key keys) hw⟩

variable [LawfulMonad m]

private theorem traced_run (ask : Object → List Key → m DigResult) (object : Object)
    (keys : List Key) (trace : List Call) :
    (traced ask object keys).run trace =
      (fun answer => (answer, trace ++ [⟨object, keys⟩])) <$> ask object keys := by
  simp [traced]

private theorem digWith_traced_run (ask : Object → List Key → m DigResult) (root : Value)
    (keys : List Key) (trace : List Call) :
    (digWith (traced ask) root keys).run trace =
      (fun result => (result, trace ++ (issued root keys).toList)) <$> digWith ask root keys := by
  cases hi : issued root keys with
  | none =>
    obtain ⟨result, hr⟩ := exists_digWith_eq_pure (issued_eq_none_iff.mp hi)
    rw [hr, hr]
    simp
  | some call =>
    have hw : walk root keys = .handOver call.object call.keys :=
      walk_eq_handOver_iff.mpr (issued_eq_some_iff.mp hi)
    rw [digWith_of_handOver _ hw, digWith_of_handOver _ hw, traced_run]
    rfl

private theorem mapM_traced_run (ask : Object → List Key → m DigResult)
    (lookups : List (Value × List Key)) (trace : List Call) :
    (lookups.mapM fun l => digWith (traced ask) l.1 l.2).run trace =
      (fun results => (results, trace ++ lookups.filterMap fun l => issued l.1 l.2)) <$>
        lookups.mapM fun l => digWith ask l.1 l.2 := by
  induction lookups generalizing trace with
  | nil => simp
  | cons first lookups ih =>
    have htrace : trace ++ (first :: lookups).filterMap (fun l => issued l.1 l.2) =
        trace ++ (issued first.1 first.2).toList ++
          lookups.filterMap (fun l => issued l.1 l.2) := by
      cases hi : issued first.1 first.2 <;> simp [hi]
    rw [List.mapM_cons, List.mapM_cons, StateT.run_bind, digWith_traced_run, htrace]
    simp only [map_eq_pure_bind, bind_assoc, pure_bind, StateT.run_bind, StateT.run_pure, ih]

/-- A lookup that meets an object with a key left calls that object once, with exactly the keys
left, and returns its answer as it is; any other lookup calls nothing. Over a sequence of lookups
an object is called with exactly the keys that the lookups hand it, in their order. -/
theorem digWith_calls (ask : Object → List Key → m DigResult) :
    (∀ root keys i object, MeetsObject root keys i object →
      keys.drop i ≠ [] ∧ digWith ask root keys = ask object (keys.drop i) ∧
        ∀ trace, (digWith (traced ask) root keys).run trace =
          (fun answer => (answer, trace ++ [⟨object, keys.drop i⟩])) <$>
            ask object (keys.drop i)) ∧
    (∀ root keys, (∀ i object, ¬ MeetsObject root keys i object) →
      ∃ result, digWith ask root keys = pure result ∧
        ∀ trace, (digWith (traced ask) root keys).run trace = pure (result, trace)) ∧
    ∀ (lookups : List (Value × List Key)) (trace : List Call), ∃ calls,
      (lookups.mapM fun l => digWith (traced ask) l.1 l.2).run trace =
        (fun results => (results, trace ++ calls)) <$>
          lookups.mapM (fun l => digWith ask l.1 l.2) ∧
      ∀ identity,
        calls.filterMap (Call.keysTo identity) =
          lookups.filterMap (fun l => keysHanded identity l.1 l.2) ∧
        ∀ root keys rest, keysHanded identity root keys = some rest ↔
          ∃ object i, MeetsObject root keys i object ∧ object.identity = identity ∧
            rest = keys.drop i := by
  refine ⟨?_, ?_, ?_⟩
  · intro root keys i object hm
    have hd : keys.drop i ≠ [] := by simpa using hm.1
    refine ⟨hd, digWith_of_handOver ask hm.walk_eq, ?_⟩
    intro trace
    rw [digWith_of_handOver _ hm.walk_eq, traced_run]
  · intro root keys hn
    obtain ⟨result, hr⟩ := exists_digWith_eq_pure hn
    refine ⟨result, hr ask, ?_⟩
    intro trace
    rw [hr]
    rfl
  · intro lookups trace
    refine ⟨_, mapM_traced_run ask lookups trace, ?_⟩
    intro identity
    refine ⟨?_, fun _ _ _ => keysHanded_eq_some_iff⟩
    rw [List.filterMap_filterMap]
    rfl

/-- A raw nil is returned as it is, and a lookup that ends on the object does not call it. -/
theorem digWith_calls_raw_nil :
    let spy : Object := .custom ⟨0, "Spy"⟩
    let ask : Object → List Key → StateM Nat DigResult :=
      fun _ _ => do modify (· + 1); pure (.ok (.found .nil))
    let root := Value.hash [(.sym "foo", spy.toValue)]
    let keys := [.sym "foo", .sym "bar", .int 0]
    MeetsObject root keys 1 spy ∧ (digWith ask root keys).run 0 = (.ok (.found .nil), 1) ∧
      ∃ calls, ((([(root, keys), (root, keys.take 1), (spy.toValue, keys)]).mapM fun l =>
          digWith (traced ask) l.1 l.2).run []).run 0 =
        (([.ok (.found .nil), .ok (.found spy.toValue), .ok (.found .nil)], calls), 2) ∧
        calls.filterMap (Call.keysTo (.custom 0)) = [keys.drop 1, keys] := by
  intro spy ask root keys
  have hm : MeetsObject root keys 1 spy := ⟨by decide, .step (.hash (by simp)) .here⟩
  have hc := digWith_calls ask
  have hone := (hc.1 root keys 1 spy hm).2.1
  obtain ⟨calls, hrun, hkeys⟩ :=
    hc.2.2 [(root, keys), (root, keys.take 1), (spy.toValue, keys)] []
  refine ⟨hm, by rw [hone]; rfl, calls, ?_, ?_⟩
  · rw [hrun]
    rfl
  · rw [(hkeys (.custom 0)).1]
    rfl

end KeyPath
