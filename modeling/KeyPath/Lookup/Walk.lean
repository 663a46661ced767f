import KeyPath.Lookup.Basic
import KeyPath.Value.Index
/-!
# Walking a key path

A walk takes one key after the other. It settles when an entry is missing or nil, when a key is
refused and when the keys are used up; it stops at the first object that it meets with a key
left, and hands that object all the keys that are left. A wrapped value then walks on by itself;
a custom object answers in its own way, which may have effects.
-/

namespace KeyPath

/-- An object as a walk meets it. -/
inductive Object where
  | wrapped (id : Nat) (content : Value)
  | custom (ref : ObjectRef)

def Object.toValue : Object → Value
  | wrapped id content => .wrapped id content
  | custom ref => .custom ref

theorem Object.toValue_ne_nil (object : Object) : object.toValue ≠ .nil := by
  cases object <;> simp [toValue]

def Value.object? : Value → Option Object
  | wrapped id content => some (.wrapped id content)
  | custom ref => some (.custom ref)
  | _ => none

@[simp] theorem Object.object?_toValue (object : Object) :
    object.toValue.object? = some object := by
  cases object <;> rfl

theorem Value.object?_eq_some_iff {value : Value} {object : Object} :
    value.object? = some object ↔ value = object.toValue := by
  constructor
  · intro h
    cases value <;> simp only [object?, Option.some.injEq, reduceCtorEq] at h <;>
      (subst h; rfl)
  · intro h
    rw [h, Object.object?_toValue]

/-- How far hashes and arrays alone lead. -/
inductive Walk where
  | settled (result : DigResult)
  /-- An object has to follow the remaining keys. -/
  | handOver (object : Object) (keys : List Key)

/-- Follow keys through hashes and arrays. -/
def walk : Value → List Key → Walk
  | value, [] => .settled (.ok (Lookup.ofValue value))
  | value, key :: rest =>
    match value.object? with
    | some object => .handOver object (key :: rest)
    | none =>
      match value.index key with
      | .error e => .settled (.error e)
      | .ok none => .settled (.ok .absent)
      | .ok (some next) => if next.isNil then .settled (.ok .absent) else walk next rest

theorem sizeOf_get?_lt {key : Key} {value : Value} {entries : List (Key × Value)}
    (h : Assoc.get? key entries = some value) : sizeOf value < sizeOf entries := by
  induction entries with
  | nil => simp [Assoc.get?] at h
  | cons entry rest ih =>
    obtain ⟨key', value'⟩ := entry
    simp only [Assoc.get?] at h
    split at h
    · cases h
      simp only [List.cons.sizeOf_spec, Prod.mk.sizeOf_spec]
      omega
    · have := ih h
      simp only [List.cons.sizeOf_spec]
      omega

theorem sizeOf_index_lt {value next : Value} {key : Key} (h : value.index key = .ok (some next)) :
    sizeOf next < sizeOf value := by
  cases value with
  | hash entries =>
    simp only [Value.index, Except.ok.injEq] at h
    have := sizeOf_get?_lt h
    simp only [Value.hash.sizeOf_spec]
    omega
  | array items =>
    simp only [Value.index] at h
    split at h
    · simp only [Except.ok.injEq, Option.bind_eq_some_iff] at h
      obtain ⟨i, _, hi⟩ := h
      have := List.sizeOf_lt_of_mem (List.mem_of_getElem? hi)
      simp only [Value.array.sizeOf_spec]
      omega
    · cases h
  | _ => simp [Value.index] at h

theorem sizeOf_le_of_object? {value : Value} {object : Object} (h : value.object? = some object) :
    sizeOf object ≤ sizeOf value := by
  rw [Value.object?_eq_some_iff] at h
  subst h
  cases object <;> simp [Object.toValue]

/-- The object that a walk stops at is a part of its root. -/
theorem sizeOf_le_of_walk_eq_handOver {root : Value} {keys rest : List Key} {object : Object}
    (h : walk root keys = .handOver object rest) : sizeOf object ≤ sizeOf root := by
  induction keys generalizing root with
  | nil => simp [walk] at h
  | cons key keys ih =>
    simp only [walk] at h
    split at h
    · next found hobj =>
      simp only [Walk.handOver.injEq] at h
      exact h.1 ▸ sizeOf_le_of_object? hobj
    · split at h
      · cases h
      · cases h
      · next next hn =>
        split at h
        · cases h
        · exact Nat.le_trans (ih h) (Nat.le_of_lt (sizeOf_index_lt hn))

section

variable {m : Type → Type} [Monad m]

/-- Follow a key path from a value; `ask` says how objects answer. At least one key is needed. -/
def digWith (ask : Object → List Key → m DigResult) (root : Value) (keys : List Key) :
    m DigResult :=
  if keys.isEmpty then pure (.error .noKeys)
  else
    match walk root keys with
    | .settled result => pure result
    | .handOver object rest => ask object rest

/-- How an object answers: a wrapped value follows the keys in its content, a custom object does
what `respond` says. -/
def Object.answer (respond : ObjectRef → List Key → m DigResult) :
    Object → List Key → m DigResult
  | custom ref, keys => respond ref keys
  | wrapped _ content, keys =>
    if keys.isEmpty then pure (.error .noKeys)
    else
      match _ : walk content keys with
      | .settled result => pure result
      | .handOver object rest => object.answer respond rest
termination_by object => sizeOf object
decreasing_by
  have := sizeOf_le_of_walk_eq_handOver ‹_›
  simp only [Object.wrapped.sizeOf_spec]
  omega

/-- Follow a key path from a value; `respond` says how custom objects answer. -/
def dig (respond : ObjectRef → List Key → m DigResult) (root : Value) (keys : List Key) :
    m DigResult :=
  digWith (Object.answer respond) root keys

@[simp] theorem Object.answer_custom (respond : ObjectRef → List Key → m DigResult)
    (ref : ObjectRef) (keys : List Key) : (custom ref).answer respond keys = respond ref keys := by
  rw [answer]

@[simp] theorem Object.answer_wrapped (respond : ObjectRef → List Key → m DigResult) (id : Nat)
    (content : Value) (keys : List Key) :
    (wrapped id content).answer respond keys = dig respond content keys := by
  rw [answer, dig, digWith]
  split
  · rfl
  · cases walk content keys <;> rfl

end

end KeyPath
